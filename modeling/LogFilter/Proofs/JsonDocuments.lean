import LogFilter.Json.Decode
import LogFilter.Proofs.JsonTokens

/-!
# Documents of Written JSON

A text of the grammar has the document of the value that is written, and nothing is left of it.
So a reader that wants one value sees the same in the text as in the value, whatever it wants and
however the value is written.

The proof follows the grammar. While a value is read, what has been read of the arrays and objects
around it stands in the frames, and none of it is touched: a value that is complete is delivered
to the frames that there were when it began.

## Main results

* `Document.build_written`: a value in front of the rest of a text.
* `Document.ofText_of_isText`: the document of a text.
* `readWhole_of_isText`: a text is read as the value that is written.
-/

namespace LogFilter.Json

namespace Document

/-- Goes on with **an outcome** and the tokens that are left. -/
def resume : Outcome → List Token → Document × List Token
  | .goOn progress frames, tokens => build progress frames tokens
  | .finished document, tokens => (document, tokens)

/-- A token leads to an outcome, with which it goes on. -/
theorem build_cons (progress : Progress) (frames : List Frame) (token : Token)
    (tokens : List Token) :
    build progress frames (token :: tokens) = resume (advance frames progress token) tokens := by
  rw [build]
  cases advance frames progress token <;> rfl

/-- Whether **a value may begin**, which is delivered to some frames. The end of an array may come
in its place. -/
def AwaitsValue (progress : Progress) (frames target : List Frame) : Prop :=
  ∀ token, token ≠ .endArray → advance frames progress token = beginValue target token

/-- A value must follow. -/
theorem awaitsValue_value (frames : List Frame) : AwaitsValue .value frames frames :=
  fun _ _ => rfl

/-- The first item of an array may follow. -/
theorem awaitsValue_firstItem (frames : List Frame) :
    AwaitsValue .firstItem frames (.item [] :: frames) := by
  intro token hend
  cases token <;> first | rfl | exact absurd rfl hend

/-- The first token of a value leads to its outcome. -/
theorem AwaitsValue.build_cons {progress : Progress} {frames target : List Frame}
    (h : AwaitsValue progress frames target) (token : Token) (hend : token ≠ .endArray)
    (tokens : List Token) :
    build progress frames (token :: tokens) = resume (beginValue target token) tokens := by
  rw [Document.build_cons, h token hend]

/-- Whether **a name may begin**, behind some members. -/
def AwaitsName (progress : Progress) (frames : List Frame) (done : List (Document × Document)) :
    Prop :=
  ∀ name, advance frames progress (.string (some name)) =
    .goOn (.colon done (.string (some name))) frames

mutual

/-- **A value in front of the rest of a text** is delivered as its document. -/
theorem build_written {value : Json} {text : List Char} (h : Written value text)
    {progress : Progress} {frames target : List Frame}
    (hawaits : AwaitsValue progress frames target) {rest : List Char} (hrest : Ends rest) :
    build progress frames (tokensFrom .between (text ++ rest)) =
      resume (deliver (ofJson value) target) (tokensFrom .between rest) := by
  match h with
  | .null => exact hawaits.build_cons .null nofun (tokensFrom .between rest)
  | .true => exact hawaits.build_cons (.boolean .true) nofun (tokensFrom .between rest)
  | .false => exact hawaits.build_cons (.boolean .false) nofun (tokensFrom .between rest)
  | .number hnumber hvalue =>
    rw [tokensFrom_number hnumber hrest, hawaits.build_cons (.number _) nofun, beginValue, hvalue]
    rfl
  | .string hchars =>
    rw [List.cons_append, List.append_assoc, List.singleton_append, tokensFrom_string hchars,
      hawaits.build_cons (.string _) nofun]
    rfl
  | .emptyArray hblanks =>
    have hopen : step .between '[' = ([.beginArray], some .between) := rfl
    have hclose : step .between ']' = ([.endArray], some .between) := rfl
    rw [List.cons_append, List.append_assoc, tokensFrom_token hopen,
      hawaits.build_cons .beginArray nofun, tokensFrom_blanks hblanks, List.singleton_append, tokensFrom_token hclose]
    exact build_cons _ _ _ _
  | .array hitems =>
    have hopen : step .between '[' = ([.beginArray], some .between) := rfl
    rw [List.cons_append, List.append_assoc, List.singleton_append, tokensFrom_token hopen,
      hawaits.build_cons .beginArray nofun]
    exact build_itemsWritten hitems (awaitsValue_firstItem target) rest
  | .emptyObject hblanks =>
    have hopen : step .between '{' = ([.beginObject], some .between) := rfl
    have hclose : step .between '}' = ([.endObject], some .between) := rfl
    rw [List.cons_append, List.append_assoc, tokensFrom_token hopen,
      hawaits.build_cons .beginObject nofun, tokensFrom_blanks hblanks, List.singleton_append, tokensFrom_token hclose]
    exact build_cons _ _ _ _
  | .object hmembers =>
    have hopen : step .between '{' = ([.beginObject], some .between) := rfl
    have hawaitsName : AwaitsName .firstName target [] := fun _ => rfl
    rw [List.cons_append, List.append_assoc, List.singleton_append, tokensFrom_token hopen,
      hawaits.build_cons .beginObject nofun]
    exact build_membersWritten hmembers hawaitsName rest

/-- So is a value with blanks around it. -/
theorem build_paddedWritten {value : Json} {text : List Char} (h : PaddedWritten value text)
    {progress : Progress} {frames target : List Frame}
    (hawaits : AwaitsValue progress frames target) {rest : List Char} (hrest : Ends rest) :
    build progress frames (tokensFrom .between (text ++ rest)) =
      resume (deliver (ofJson value) target) (tokensFrom .between rest) := by
  match h with
  | .intro hbefore hvalue hafter =>
    rw [List.append_assoc, List.append_assoc, tokensFrom_blanks hbefore,
      build_written hvalue hawaits (hrest.blanks hafter), tokensFrom_blanks hafter]

/-- **Items up to the end of their array** are delivered as an array, behind the items before
them. -/
theorem build_itemsWritten {items : List Json} {text : List Char} (h : ItemsWritten items text)
    {progress : Progress} {frames target : List Frame} {done : List Document}
    (hawaits : AwaitsValue progress frames (.item done :: target)) (rest : List Char) :
    build progress frames (tokensFrom .between (text ++ ']' :: rest)) =
      resume (deliver (.array (done.reverse ++ ofItems items) none) target)
        (tokensFrom .between rest) := by
  match h with
  | @ItemsWritten.last item _ hitem =>
    have hclose : step .between ']' = ([.endArray], some .between) := rfl
    rw [build_paddedWritten hitem hawaits (ends_cons (.inr (.inl rfl)) rest),
      tokensFrom_token hclose]
    change build (.nextItem (ofJson item :: done)) target _ = _
    rw [build_cons, advance, List.reverse_cons, ofItems, ofItems]
  | @ItemsWritten.cons item items _ more hitem hitems =>
    have hcomma : step .between ',' = ([.comma], some .between) := rfl
    rw [List.append_assoc, List.cons_append,
      build_paddedWritten hitem hawaits (ends_cons (.inl rfl) _), tokensFrom_token hcomma]
    change build (.nextItem (ofJson item :: done)) target _ = _
    rw [build_cons, advance, resume, build_itemsWritten hitems (awaitsValue_value _) rest,
      List.reverse_cons, List.append_assoc, List.singleton_append, ofItems]

/-- **A name and its value** come last among the members before them. -/
theorem build_memberWritten {name : String} {value : Json} {text : List Char}
    (h : MemberWritten name value text) {progress : Progress} {frames : List Frame}
    {done : List (Document × Document)} (hawaits : AwaitsName progress frames done)
    {rest : List Char} (hrest : Ends rest) :
    build progress frames (tokensFrom .between (text ++ rest)) =
      build (.nextMember ((.string (some name), ofJson value) :: done)) frames
        (tokensFrom .between rest) := by
  match h with
  | .intro hbefore hname hbetween hvalue =>
    have hcolon : step .between ':' = ([.colon], some .between) := rfl
    simp only [List.append_assoc, List.cons_append]
    rw [tokensFrom_blanks hbefore, tokensFrom_string hname, build_cons, hawaits,
      tokensFrom_blanks hbetween, tokensFrom_token hcolon, resume, build_cons, advance, resume]
    exact build_paddedWritten hvalue (awaitsValue_value _) hrest

/-- **Members up to the end of their object** are delivered as an object, behind the members
before them. -/
theorem build_membersWritten {members : List (String × Json)} {text : List Char}
    (h : MembersWritten members text) {progress : Progress} {frames : List Frame}
    {done : List (Document × Document)} (hawaits : AwaitsName progress frames done)
    (rest : List Char) :
    build progress frames (tokensFrom .between (text ++ '}' :: rest)) =
      resume (deliver (.object (done.reverse ++ ofMembers members) none) frames)
        (tokensFrom .between rest) := by
  match h with
  | @MembersWritten.last name value _ hmember =>
    have hclose : step .between '}' = ([.endObject], some .between) := rfl
    rw [build_memberWritten hmember hawaits (ends_cons (.inr (.inr rfl)) rest),
      tokensFrom_token hclose, build_cons, advance, List.reverse_cons, ofMembers, ofMembers]
  | @MembersWritten.cons name value members _ more hmember hmembers =>
    have hcomma : step .between ',' = ([.comma], some .between) := rfl
    have hlater : AwaitsName (.name ((.string (some name), ofJson value) :: done)) frames
      ((.string (some name), ofJson value) :: done) := fun _ => rfl
    rw [List.append_assoc, List.cons_append,
      build_memberWritten hmember hawaits (ends_cons (.inl rfl) _), tokensFrom_token hcomma,
      build_cons, advance, resume, build_membersWritten hmembers hlater rest, List.reverse_cons,
      List.append_assoc, List.singleton_append, ofMembers]

end

/-- **The document of a text** is that of the value that is written, and nothing is left. -/
theorem ofText_of_isText {value : Json} {text : String} (h : IsText value text) :
    ofText text = (ofJson value, []) := by
  have hend : Ends [] := nofun
  have hbuild := build_paddedWritten h (awaitsValue_value []) hend
  rw [List.append_nil] at hbuild
  exact hbuild

end Document

/-- **A text is read as the value that is written**, whatever is wanted of it. -/
theorem readWhole_of_isText {value : Json} {text : String} (h : IsText value text) {α : Type}
    (decode : Decoder α) : readWhole decode text = readValue decode value := by
  rw [readWhole, Document.ofText_of_isText h, readValue]
  dsimp only
  cases decode (Document.ofJson value) <;> rfl

end LogFilter.Json
