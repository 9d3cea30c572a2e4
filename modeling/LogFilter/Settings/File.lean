import LogFilter.Settings.Language
import LogFilter.Text.Parts

/-!
# Settings in Files

A file of settings is found under its name, or under its name with an extension added. A file
that is not there sets nothing, and neither does one in a language that its extension does not
tell.

A path that does not begin at the root begins in the folder that the program runs in, and it is
from this folder that messages name every file.

## Main definitions

* `Host`: where a program runs, and the languages that it reads.
* `Host.findFile?`: the file that is meant by a path.
* `Host.fileSource`: what the file sets.

## Main statements

* `Host.language?_of_mem`: an extension tells the language that has it.
-/

namespace LogFilter.Settings

/-- The extension of a name, if it has one. A point at the beginning of a name begins none. -/
def extension? (name : List Char) : Option (List Char) :=
  match (Text.splitAt '.' name).reverse with
  | extension :: before :: rest =>
      if before.isEmpty && rest.isEmpty then none else some extension
  | _ => none

/-- The steps of a path that do not stay in the same folder. -/
def pathSteps (path : List Char) : List (List Char) :=
  (Text.splitAt '/' path).filter fun step => step != [] && step != ['.']

/-- The steps from a folder to what other steps from the root lead to: out of the folder, as far
as the ways differ, and then on. -/
def stepsFrom : List (List Char) → List (List Char) → List (List Char)
  | name :: folder, step :: steps =>
      if name = step then stepsFrom folder steps
      else List.replicate (folder.length + 1) ['.', '.'] ++ step :: steps
  | folder, steps => List.replicate folder.length ['.', '.'] ++ steps

/-- Where a **program runs**, and the languages that it reads. -/
structure Host where
  /-- The steps from the root to the folder that the program runs in. -/
  folder : List (List Char)
  /-- The languages, in the order in which a file is looked for in them. -/
  languages : List Language
  toml_mem : .toml ∈ languages
  json_mem : .json ∈ languages
  /-- No extension belongs to two languages. -/
  disjoint : languages.Pairwise fun first second =>
    ∀ extension ∈ first.extensions, extension ∉ second.extensions

namespace Host

/-- A host that reads no other languages than TOML and JSON. -/
def plain : Host where
  folder := ["logsift".toList]
  languages := [.toml, .json]
  toml_mem := List.mem_cons_self
  json_mem := List.mem_cons_of_mem _ List.mem_cons_self
  disjoint := by simp [Language.extensions]

variable (host : Host)

/-- The language that an extension tells. -/
def language? (extension : List Char) : Option Language :=
  host.languages.find? fun language =>
    language.extensions.any fun known => known.toList == extension

/-- The steps from the root that a path leads along. -/
def stepsTo (path : List Char) : List (List Char) :=
  if path.head? = some '/' then pathSteps path else host.folder ++ pathSteps path

/-- The name of what some steps from the root lead to. -/
def nameOf (steps : List (List Char)) : String :=
  String.ofList (Text.joinWith '/' (stepsFrom host.folder steps))

/-- The file whose name has one of the extensions added. -/
def withExtension? (content? : String → Option String) (folder : List (List Char))
    (last : List Char) : Option (String × String × Option Language) :=
  host.languages.findSome? fun language =>
    language.extensions.findSome? fun extension =>
      let name := host.nameOf (folder ++ [last ++ '.' :: extension.toList])
      (content? name).map fun content => (name, content, some language)

/-- The **file that a path means**, its name, its content and its language, if it has one: the
file that the path leads to, or the one whose name also has an extension. A path that ends
inside a folder leads to no file, and then only a name without an extension gets one. One that
ends outside a folder leads to none. -/
def findFile? (content? : String → Option String) (path : String) :
    Option (String × String × Option Language) :=
  let steps := host.stepsTo path.toList
  match steps.getLast? with
  | none => none
  | some last =>
      if last = ['.', '.'] then none
      else if (Text.splitAt '/' path.toList).getLast? = some last then
        let name := host.nameOf steps
        match content? name with
        | some content => some (name, content, (extension? last).bind host.language?)
        | none => host.withExtension? content? steps.dropLast last
      else if (extension? last).isSome then none
      else host.withExtension? content? steps.dropLast last

/-- What the **file that a path means** sets, key by key. -/
def fileSource (content? : String → Option String) (path : String) :
    Except Fault (List (String × Tree)) :=
  match host.findFile? content? path with
  | some (name, content, some language) => language.read name content
  | some (_, _, none) | none => .ok []

variable {host}

/-- **An extension tells the language that has it**, in whatever order the languages are tried. -/
theorem language?_of_mem {language : Language} (h : language ∈ host.languages)
    {extension : String} (hextension : extension ∈ language.extensions) :
    host.language? extension.toList = some language := by
  have hdisjoint := host.disjoint
  rw [language?]
  generalize host.languages = languages at h hdisjoint
  induction languages with
  | nil => cases h
  | cons first rest ih =>
    obtain ⟨hfirst, hrest⟩ := List.pairwise_cons.mp hdisjoint
    rcases List.mem_cons.mp h with rfl | hmem
    · rw [List.find?_cons_of_pos]
      exact List.any_eq_true.mpr ⟨extension, hextension, beq_self_eq_true _⟩
    · rw [List.find?_cons_of_neg]
      · exact ih hmem hrest
      · intro hany
        obtain ⟨known, hknown, hsame⟩ := List.any_eq_true.mp hany
        have : known = extension := String.ext (eq_of_beq hsame)
        exact hfirst language hmem known hknown (this ▸ hextension)

/-- **A file with a known extension** is read in the language of this extension. -/
theorem fileSource_eq_read {content? : String → Option String} {path content extension : String}
    {last : List Char} {language : Language} (hlanguage : language ∈ host.languages)
    (hextension : extension ∈ language.extensions)
    (hlast : (host.stepsTo path.toList).getLast? = some last) (hinside : last ≠ ['.', '.'])
    (hfile : (Text.splitAt '/' path.toList).getLast? = some last)
    (htold : extension? last = some extension.toList)
    (hcontent : content? (host.nameOf (host.stepsTo path.toList)) = some content) :
    host.fileSource content? path =
      language.read (host.nameOf (host.stepsTo path.toList)) content := by
  have hfind : host.findFile? content? path =
      some (host.nameOf (host.stepsTo path.toList), content, some language) := by
    simp only [findFile?, hlast, if_neg hinside, hfile, if_true, hcontent, htold, Option.bind_some,
      language?_of_mem hlanguage hextension]
  rw [fileSource, hfind]

end Host

end LogFilter.Settings
