/-
The tool that tells the time: now, at a moment that a text tells of, or when a file was changed.
-/
import AliasShell.Machine.Dates.Format
import AliasShell.Machine.Dates.Reader
import AliasShell.Machine.Tools.Basic

namespace AliasShell.Tools

/-- The zone that a process is in. -/
def zoneOf (p : Process) : Dates.Zone :=
  match p.var? "TZ" with
  | some t => Dates.Zone.ofText t
  | none => .universal

namespace Clock

/-- The letters that are known. -/
def letters : Letters :=
  { plain := "Ruδρ", valued := "dfrsτ", loose := "I"
    long := [("date", 'd'), ("debug", 'δ'), ("file", 'f'), ("iso-8601", 'I'), ("reference", 'r'),
      ("resolution", 'ρ'), ("rfc-822", 'R'), ("rfc-2822", 'R'), ("rfc-email", 'R'),
      ("rfc-3339", 'τ'), ("set", 's'), ("uct", 'u'), ("utc", 'u'), ("universal", 'u')]
    usage := "[OPTION]... [+FORMAT]" }

/-- The formats that stand for a precision. -/
def isoFormats : List (String × String) :=
  [("hours", "%Y-%m-%dT%H%:z"), ("minutes", "%Y-%m-%dT%H:%M%:z"), ("date", "%Y-%m-%d"),
    ("seconds", "%Y-%m-%dT%H:%M:%S%:z"), ("ns", "%Y-%m-%dT%H:%M:%S,%N%:z")]

/-- The same with a blank in the middle. -/
def spacedFormats : List (String × String) :=
  [("date", "%Y-%m-%d"), ("seconds", "%Y-%m-%d %H:%M:%S%:z"), ("ns", "%Y-%m-%d %H:%M:%S.%N%:z")]

/-- The format that nobody has asked for. -/
def usualFormat : Text := "%a %b %e %H:%M:%S %Z %Y".toList

/-- The format that options ask for. -/
def format? (p : Process) (a : Asked) : Except Aftermath (Option Text) := do
  let mut found : Option Text := none
  for (c, t) in a.options do
    let one : Option Text ← if c = 'R' then
        Except.ok (some "%a, %d %b %Y %H:%M:%S %z".toList)
      else if c = 'I' then
        if t.isEmpty then Except.ok (some "%Y-%m-%d".toList)
        else (choose p "iso-8601" isoFormats t).map fun f => some f.toList
      else if c = 'τ' then (choose p "rfc-3339" spacedFormats t).map fun f => some f.toList
      else Except.ok none
    if one.isSome && found.isSome then failWith p 1 "multiple output formats specified"
    found := one.or found
  return found

/-- The lines for moments that the lines of a file tell of. -/
def batch (p : Process) (zone : Dates.Zone) (format : Text) (b : Bytes) : Aftermath :=
  conclude p p.input (b.lines.map fun line =>
    let t := Bytes.numbered line
    match Dates.read? zone p.files.now t with
    | some m => (.output, Text.bytes ((Dates.Stamp.ofMoment zone m).text format ++ ['\n']))
    | none => p.complaint ("invalid date " ++ Quoting.cited t))

end Clock

open Clock in
/-- A moment in a format. -/
def date : Tool :=
  taking letters 1 fun p a => settle do
    let format ← format? p a
    let sources := ['d', 'f', 'r', 'ρ'].filter a.has
    if 1 < sources.length then
      failMisused p 1 "the options to specify dates for printing are mutually exclusive"
    if a.has 's' && !sources.isEmpty then
      failMisused p 1 "the options to print and set the time may not be used together"
    if let _ :: t :: _ := a.operands then
      failMisused p 1 ("extra operand " ++ Quoting.cited t)
    let operand := a.operands.head?
    let format ← match operand with
      | some ('+' :: t) =>
        if format.isSome then failWith p 1 "multiple output formats specified" else pure (some t)
      | some t =>
        if a.has 's' || !sources.isEmpty then
          failMisused p 1 ("the argument " ++ Quoting.cited t ++
            " lacks a leading '+';\nwhen using an option to specify date(s), any non-option\n" ++
            "argument must be a format string beginning with '+'")
        else pure format
      | none => pure format
    let zone := if a.has 'u' then .universal else zoneOf p
    let now := p.files.now
    if a.has 'ρ' then return p.say "0.000000001\n"
    let shown := format.getD usualFormat
    let line (m : Moment) : Channel × Bytes :=
      (.output, Text.bytes ((Dates.Stamp.ofMoment zone m).text shown ++ ['\n']))
    let refused (t : Text) : Except Aftermath Aftermath :=
      failWith p 1 ("invalid date " ++ Quoting.cited t)
    let setting (m : Moment) : Aftermath :=
      p.leave 1 [p.complaint "cannot set date: Operation not permitted", line m]
    match a.value? 'f', a.value? 'r', a.value? 's', a.value? 'd', operand with
    | some name, _, _, _, _ =>
      match (contents p [name]).1.head? with
      | some (_, .ok b) =>
        return { batch p zone shown b with input := if name = ['-'] then [] else p.input }
      | some (_, .error e) => failWith p 1 (fileFault name e)
      | none => return p.quit 0
    | _, some name, _, _, _ =>
      match p.files.locateWhole name with
      | .ok loc =>
        return p.leave 0 [line (((p.files.node? loc).map Node.modified).getD 0)]
      | .error e => failWith p 1 (fileFault name e)
    | _, _, some t, _, _ =>
      match Dates.read? zone now t with
      | some m => return setting m
      | none => refused t
    | _, _, _, some t, _ =>
      match Dates.read? zone now t with
      | some m => return p.leave 0 [line m]
      | none => refused t
    | _, _, _, _, some ('+' :: _) => return p.leave 0 [line now]
    | _, _, _, _, some t =>
      match Dates.ofPairs? zone now true t with
      | some m => return setting m
      | none => refused t
    | _, _, _, _, none => return p.leave 0 [line now]

end AliasShell.Tools
