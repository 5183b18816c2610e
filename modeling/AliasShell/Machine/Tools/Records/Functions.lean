/-
The functions that every program over records has.
-/
import AliasShell.Machine.Dates.Format
import AliasShell.Machine.Tools.Clock
import AliasShell.Machine.Tools.Records.State

namespace AliasShell.Tools.Records

/-! ### Formats -/

/-- What is written in a format, and why nothing more is; at most `n` pieces.  `k` counts the places
of the format. -/
def formattedFrom (conversion : Text) (fault : Text → Text) :
    Nat → Nat → Text → List Value → Text × Option Text
  | 0, _, _, _ => ([], none)
  | _, _, [], _ => ([], none)
  | n + 1, k, '%' :: '%' :: cs, vs =>
    let (t, why) := formattedFrom conversion fault n k cs vs
    ('%' :: t, why)
  | n + 1, k, '%' :: cs, vs =>
    let missing : Text × Option Text := ([], some (fault "not enough arguments passed to ".toList))
    let improper : Text × Option Text :=
      if vs.isEmpty then missing
      else
        ([], some (fault ("improper conversion(number ".toList ++ Integer.digits k ++
          ") in ".toList)))
    let (piece, length) := Format.place .script (cs.filter fun c => !"hlL".toList.contains c)
    let modifiers := ((cs.takeWhile fun c => !c.isAlpha || "hlL".toList.contains c).filter
      fun c => "hlL".toList.contains c).length
    match piece with
    | .place flags width precision kind =>
      let extent (e : Option Extent) (vs : List Value) : Option (Option Int × List Value) :=
        match e, vs with
        | none, vs => some (none, vs)
        | some (.given n), vs => some (some n, vs)
        | some .argument, v :: vs => some (some (Float.whole v.float), vs)
        | some .argument, [] => none
      if kind = 'b' ∨ kind = 'a' ∨ kind = 'A' then improper
      else match extent width vs with
      | none => missing
      | some (w, vs) =>
        match extent precision vs with
        | some (p, v :: vs) =>
          let flags := if (w.getD 0) < 0 then '-' :: flags else flags
          let w := (w.map Int.natAbs).getD 0
          let p := p.bind fun p => if p < 0 then none else some p.natAbs
          let padded (t : Text) : Text :=
            Bytes.numbered (Format.pad (flags.contains '-') w (Text.bytes t))
          let t :=
            if kind = 's' then
              let t := Value.shown conversion v
              padded (match p with
                | some p => t.take p
                | none => t)
            else if kind = 'c' then
              match v with
              | .text t | .numeral t _ => padded (if t.isEmpty then ['\x00'] else t.take 1)
              | v => padded [Char.ofNat ((Float.whole v.float % 256).toNat)]
            else if "fFeEgG".toList.contains kind then
              padded (Format.quantityText .double flags w p kind (Float.quantity v.float))
            else
              let x := v.float
              let n := match Float.shownWhole? x with
                | some n => n
                | none =>
                  if 18446744073709551615.0 ≤ x then (Nat.pow 2 64 - 1 : Nat)
                  else max (-(Integer.greatest)) (Float.whole x)
              padded (Format.integerText flags w p kind n)
          let (more, why) :=
            formattedFrom conversion fault n (k + 1) (cs.drop (length + modifiers)) vs
          (t ++ more, why)
        | _ => missing
    | _ => improper
  | n + 1, k, c :: cs, vs =>
    let (t, why) := formattedFrom conversion fault n k cs vs
    (c :: t, why)

/-- Values in a format, and what is to be done about a fault in it; `who` wants it. -/
def formatted (who : String) (vs : List Value) : Act (Text × Act Unit) := do
  match vs with
  | [] => fail ("line 1: no arguments in call to ".toList ++ who.toList)
  | v :: vs =>
    let format ← textOf v
    let fault (front : Text) : Text := front ++ who.toList ++ "(\"".toList ++ format ++ "\")".toList
    let (t, why) := formattedFrom (← conversion) fault (format.length + 1) 1 format vs
    return (t, match why with
      | some why => failRunning why
      | none => pure ())

/-! ### Texts -/

/-- Where a text stands in another, from 1 on; 0 if it does not. -/
def indexOf (t : Text) : Nat → Text → Nat
  | i, s =>
    if t.isPrefixOf s then i
    else
      match s with
      | [] => 0
      | _ :: cs => indexOf t (i + 1) cs

/-- A part of a text from a place on, of some length if one is given.  Both are rounded, a half to
the even neighbour. -/
def part (t : Text) (start : Float) (length : Option Float) : Text :=
  let nearest (x : Float) : Int :=
    match Float.quantity x with
    | .finite negative num den =>
      let n : Int := Quantity.nearest num den
      if negative then -n else n
    | .infinite negative => if negative then Integer.least else Integer.greatest
    | .nan _ => 0
  let first := nearest start
  match length with
  | none => t.drop (first - 1).toNat
  | some l =>
    let last := first + nearest l
    let first := max first 1
    if last ≤ first then [] else (t.drop (first - 1).toNat).take (last - first).toNat

/-- What takes the place of a match: `&` stands for it unless a backslash is in front. -/
def replacement (found : Text) : Text → Text
  | [] => []
  | '\\' :: '&' :: cs => '&' :: replacement found cs
  | '\\' :: '\\' :: '&' :: cs => '\\' :: (found ++ replacement found cs)
  | '\\' :: '\\' :: cs => '\\' :: '\\' :: replacement found cs
  | '&' :: cs => found ++ replacement found cs
  | c :: cs => c :: replacement found cs

/-- A text with something else in place of matches, and how many there were; at most `n` steps.  `i`
is where the text begins in the whole; an empty match right behind another one does not count. -/
def substituted (m : Matcher) (bytes : Array UInt8) (by_ : Text) (all : Bool) :
    Nat → Nat → Bool → Text → Text × Nat
  | 0, _, _, t => (t, 0)
  | n + 1, i, behind, t =>
    match m.span? bytes i with
    | none => (t, 0)
    | some (a, b) =>
      let front := t.take (a - i)
      let rest := t.drop (a - i)
      if a = b then
        let own := if behind ∧ a = i then [] else replacement [] by_
        let counted := if behind ∧ a = i then 0 else 1
        match rest with
        | [] => (front ++ own, counted)
        | c :: cs =>
          if !all && counted = 1 then (front ++ own ++ rest, 1)
          else
            let (more, k) := substituted m bytes by_ all n (a + 1) false cs
            (front ++ own ++ c :: more, k + counted)
      else
        let found := rest.take (b - a)
        let own := replacement found by_
        let after := rest.drop (b - a)
        if all then
          if after.isEmpty then (front ++ own, 1)
          else
            let (more, k) := substituted m bytes by_ all n b true after
            (front ++ own ++ more, k + 1)
        else (front ++ own ++ after, 1)

/-! ### Numbers -/

/-- The number that comes after another in a sequence without an evident order. -/
def nextSeed (n : Nat) : Nat := (6364136223846793005 * n + 1442695040888963407) % Nat.pow 2 64

/-- A function of numbers. -/
def numeric? (name : Text) (x y : Float) : Option Float :=
  match String.ofList name with
  | "sin" => some x.sin
  | "cos" => some x.cos
  | "atan2" => some (Float.atan2 x y)
  | "exp" => some x.exp
  | "log" => some x.log
  | "sqrt" => some x.sqrt
  | "int" => some (if x < 0.0 then x.ceil else x.floor)
  | _ => none

/-- The moment that six numbers tell. -/
def momentOf (zone : Dates.Zone) (t : Text) : Int :=
  match (Separator.words t).map Integer.ofText? with
  | some y :: some m :: some d :: some h :: some min :: some s :: _ =>
    86400 * Calendar.daysOf y (m.toNat) (d.toNat) + 3600 * h + 60 * min + s - zone.ahead
  | _ => -1

/-- The functions whose arguments are only looked at.  None is one of these if the answer is `none`.
-/
def simple? (h : Host) (name : Text) (vs : List Value) : Act (Option Value) := do
  let text (i : Nat) : Act Text := textOf (vs.getD i .unset)
  let float (i : Nat) : Float := (vs.getD i .unset).float
  match String.ofList name with
  | "index" =>
    return some (Value.ofNat (indexOf (← text 1) 1 (← text 0)))
  | "substr" =>
    return some (.text (part (← text 0) (float 1) (if 2 < vs.length then some (float 2) else none)))
  | "sprintf" =>
    let (t, fault) ← formatted "sprintf" vs
    fault
    return some (.text t)
  | "tolower" => return some (.text ((← text 0).map Char.toLower))
  | "toupper" => return some (.text ((← text 0).map Char.toUpper))
  | "rand" =>
    modify fun s => { s with seed := nextSeed s.seed }
    return some (.number (Float.ofNat ((← get).seed / Nat.pow 2 11) / 9007199254740992.0))
  | "srand" =>
    let before := (← get).seed
    let seed := if vs.isEmpty then (h.process.files.now.seconds).toNat
      else (Float.whole (float 0)).toNat
    modify fun s => { s with seed }
    return some (Value.ofNat before)
  | "systime" => return some (.number (Float.ofInt (← get).files.now.seconds))
  | "mktime" => return some (.number (Float.ofInt (momentOf (zoneOf h.process) (← text 0))))
  | "strftime" =>
    let format ← if vs.isEmpty then pure "%c".toList else text 0
    let now := (← get).files.now.seconds
    let seconds := if 1 < vs.length then Float.whole (float 1) else now
    let zone := if 2 < vs.length ∧ (vs.getD 2 .unset).truth = true then Dates.Zone.universal
      else zoneOf h.process
    return some (.text ((Dates.Stamp.ofMoment zone (Moment.ofSeconds seconds)).text format))
  | "system" =>
    emptyAll
    let (status, transcript) ← command h (← text 0) (← get).input
    transcript.forM fun (c, b) => tell c b
    return some (Value.ofNat status)
  | "fflush" =>
    emptyAll
    let name ← text 0
    let isKnown := name.isEmpty || (← get).streams.any fun st => st.name == name
    return some (.number (if isKnown then 0.0 else -1.0))
  | "close" =>
    let name ← text 0
    let s ← get
    let streams := s.streams.filter (·.name == name)
    let sources := s.sources.filter (·.name == name)
    if streams.isEmpty && sources.isEmpty then return some (.number (-1.0))
    else
      set { s with
        streams := s.streams.filter (·.name != name)
        sources := s.sources.filter (·.name != name) }
      let mut status := ((sources.head?).map Source.status).getD 0
      for st in streams do
        status ← closed h st
      return some (Value.ofNat status)
  | _ => return (numeric? name (float 0) (float 1)).map Value.number

end AliasShell.Tools.Records
