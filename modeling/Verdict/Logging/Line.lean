import Verdict.Evaluation.Outcome
import Verdict.Logging.Filter
import Verdict.Settings.Basic
import Verdict.Text.Quoted

set_option autoImplicit false

namespace Verdict

structure Entry where
  level : Level
  target : String
  message : String
  fields : Fields

def Event.entry (e : Event) : Entry := ⟨e.level, e.target, e.message, e.fields⟩

def Span.closing (s : Span) : Entry := ⟨Span.level, s.target, "close", []⟩

def Observability.announcement (o : Observability) : Entry where
  level := .info
  target := "rulekit_shared::observability"
  message := "Observability initialized"
  fields := [("log_level", .shown o.logLevel), ("json_logs", .flag o.jsonLogs)]

def Entry.origin (e : Entry) : Origin := ⟨e.level, e.target, "message" :: e.fields.map Prod.fst⟩

namespace Logging

structure Line where
  entry : Entry
  -- the span the entry belongs to, and the spans it happened in
  owner : Option Span
  around : List Span

structure Episode where
  span : Span
  events : List Event

def eventLine (span : Option Span) (e : Event) : Line := ⟨e.entry, span, span.toList⟩

def closingLine (s : Span) : Line := ⟨s.closing, some s, []⟩

def announcementLine (o : Observability) : Line := ⟨o.announcement, none, []⟩

def episodeLines (filter : Filter) (closings : Bool) (episode : Episode) : List Line :=
  let span := if filter.opens episode.span then some episode.span else none
  let events := episode.events.filter fun e => filter.admits span e.entry.origin
  events.map (eventLine span) ++ if closings then (span.map closingLine).toList else []

def lines (o : Observability) (filter : Filter) (episodes : List Episode) : List Line :=
  let announcement := announcementLine o
  (if filter.admits none announcement.entry.origin then [announcement] else [])
    ++ episodes.flatMap (episodeLines filter o.jsonLogs)

def valueText : FieldValue → List Char
  | .number n => Nat.toDigits 10 n
  | .flag b => Datum.boolText b
  | .word s => Text.quoted s.toList
  | .shown s => s.toList

def fieldText (field : String × FieldValue) : List Char :=
  field.1.toList ++ '=' :: valueText field.2

def spanText (s : Span) : List Char :=
  let fields := match s.fields with
    | [] => []
    | fields => '\x7b' :: Text.joinWith [' '] (fields.map fieldText) ++ ['\x7d']
  s.name.toList ++ fields

def levelText (level : Level) : List Char :=
  List.replicate (5 - level.name.length) ' ' ++ level.name.toList

def contextText : List Span → List Char
  | [] => []
  | spans => Text.joinWith [':'] (spans.map spanText) ++ [':', ' ']

def Line.text (line : Line) : String :=
  let e := line.entry
  String.ofList <| levelText e.level ++ ' ' :: contextText line.around ++ e.target.toList ++ ':' :: ' '
    :: Text.joinWith [' '] (e.message.toList :: e.fields.map fieldText)

def valueDatum : FieldValue → Datum
  | .number n => .ofInt n
  | .flag b => .bool b
  | .word s | .shown s => .str s

def fieldsData (fields : Fields) : List (String × Datum) :=
  fields.map fun (name, value) => (name, valueDatum value)

def spanDatum (s : Span) : Datum := .obj (fieldsData s.fields ++ [("name", .str s.name)])

def Line.datum (line : Line) : Datum :=
  let e := line.entry
  let spans := match line.owner with
    | some s => [("span", spanDatum s), ("spans", .arr (line.around.map spanDatum))]
    | none => []
  .obj ([("level", .str e.level.name),
    ("fields", .obj (("message", .str e.message) :: fieldsData e.fields)),
    ("target", .str e.target)] ++ spans)

end Logging

end Verdict
