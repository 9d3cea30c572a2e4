import LogFilter.Error
import LogFilter.Names
import LogFilter.Sql.Basic
import LogFilter.Sql.Fragment
import LogFilter.Sql.Query
import LogFilter.Sql.Execute
import LogFilter.Filter
import LogFilter.Selection
import LogFilter.Subject
import LogFilter.TagJoin
import LogFilter.Compile
import LogFilter.Wire.Filter
import LogFilter.Timestamp.Reader
import LogFilter.Wire.Report
import LogFilter.Wire.Settings
import LogFilter.Http.Service
import LogFilter.Store.Session
import LogFilter.Http.Session
import LogFilter.Json.Document
import LogFilter.Json.Basic
import LogFilter.Json.Decode
import LogFilter.Settings.Load
import LogFilter.Proofs.StoreInvariant
import LogFilter.Proofs.QueryShape
import LogFilter.Proofs.QueryMeaning
import LogFilter.Proofs.ProjectIsolation
import LogFilter.Proofs.NewestFirst
import LogFilter.Proofs.BulkUpdate
import LogFilter.Proofs.Complement
import LogFilter.Proofs.Pages
import LogFilter.Proofs.StrictPolicy
import LogFilter.Proofs.Atomicity
import LogFilter.Proofs.FailedRequests
import LogFilter.Proofs.Placeholders
import LogFilter.Proofs.ReadingBack
import LogFilter.Proofs.FaithfulText
import LogFilter.Proofs.Dialects
import LogFilter.Proofs.Explanations
import LogFilter.Proofs.Intersection
import LogFilter.Proofs.OtherRecords
import LogFilter.Proofs.LiteralSearch
import LogFilter.Proofs.ComparatorOrder
import LogFilter.Proofs.SelectionNarrows
import LogFilter.Proofs.UnspecifiedFilters
import LogFilter.Proofs.FirstOffence
import LogFilter.Proofs.AliasScopes
import LogFilter.Proofs.NewCalls
import LogFilter.Proofs.LastWrites
import LogFilter.Proofs.StatusPaths
import LogFilter.Proofs.Payloads
import LogFilter.Proofs.WireForms
import LogFilter.Proofs.TextSettings
import LogFilter.Proofs.SettingLayers
