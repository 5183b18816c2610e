/-
Running programs over records.

An expression is worked out from left to right.  A place that is assigned to is settled before the
value is; statements that leave others do so as a stop, which the loop, function or rule around them
takes.
-/
import AliasShell.Machine.Tools.Records.Functions

namespace AliasShell.Tools.Records

namespace Run

/-- A place that can be assigned to, with everything in it worked out. -/
inductive Place where
  | var (v : Var)
  | field (n : Nat)
  | element (table : Text) (key : Key)

/-- The value in a place. -/
def Place.value : Place → Act Value
  | .var v => valueOf v
  | .field n => Records.field n
  | .element name key => do return ((← table name).get? key).getD .unset

/-- Another value for a place. -/
def Place.set (p : Place) (v : Value) : Act Unit :=
  match p with
  | .var x => setVar x v
  | .field n => setField n v
  | .element name key => changeTable name (·.put key v)

/-- The number of a field. -/
def fieldNumber (v : Value) : Act Nat := do
  let n := Float.whole v.float
  if n < 0 then
    failRunning ("negative field index $".toList ++ Integer.text n)
  else return n.toNat

/-- The number that an operator makes of two. -/
def Operator.apply (op : Operator) (x y : Float) : Float :=
  match op with
  | .add => x + y
  | .sub => x - y
  | .mul => x * y
  | .div => x / y
  | .rem => Float.remainder x y
  | .pow => Float.pow x y

/-- Repeats a step as long as it wants to go on; at most `n` times. -/
def iterate (step : Act Bool) : Nat → Act Unit
  | 0 => pure ()
  | n + 1 => do if ← step then iterate step n

/-- More often than anything is repeated. -/
def forever : Nat := 1000000000

/-- Runs the body of a loop, and says whether the loop goes on. -/
def turn (body : Act Unit) : Act Bool :=
  tryCatch (do body; pure true) fun stop =>
    match stop with
    | .breakOff => pure false
    | .goOn => pure true
    | stop => throw stop

/-- Repeats a step for names that a variable is set to, as long as it wants to go on. -/
def forKeys (v : Var) (step : Act Bool) : List Text → Act Unit
  | [] => pure ()
  | k :: ks => do
    setVar v (.text k)
    if ← step then forKeys v step ks

/-- A record that was read goes where it was wanted; 1 says that there was one. -/
def receive (place : Option Place) (found : Option Text) (counts : List String) : Act Value := do
  match found, place with
  | none, _ => return .number 0.0
  | some t, none =>
    setRecord t
    count counts
    return .number 1.0
  | some t, some place =>
    place.set (Value.ofOutside t)
    count counts
    return .number 1.0

/-- Opens something that is read from, if it is not open; says whether it is. -/
def openSource (h : Host) (name : Text) (isCommand : Bool) : Act Bool := do
  let s ← get
  if s.sources.any fun x => x.name == name && x.isCommand == isCommand then return true
  else if isCommand then
    emptyAll
    let (status, transcript) ← command h name (← get).input
    tell .errors (transcript.on .errors)
    let src : Source := ⟨name, true, Bytes.numbered (transcript.on .output), status⟩
    modify fun s => { s with sources := src :: s.sources }
    return true
  else if isInput s.files name then
    let t ← takeInput
    modify fun s => { s with sources := ⟨name, false, t, 0⟩ :: s.sources }
    return true
  else
    match s.files.read name with
    | .ok b =>
      modify fun s => { s with sources := ⟨name, false, Bytes.numbered b, 0⟩ :: s.sources }
      return true
    | .error .isDirectory => fail "read error (Is a directory)".toList
    | .error _ => return false

mutual

/-- The value of an expression. -/
def eval (h : Host) : Nat → Expr → Act Value
  | 0, _ => fail "function call nesting too deep for evaluation stack".toList
  | n + 1, e => do
    match e with
    | .number x => return .number x
    | .text t => return .text t
    | .regex t =>
      join
      let m ← matcher t
      return .ofBool (m.isIn (Text.bytes (← get).record).toArray)
    | .group e => eval h n e
    | .var v => valueOf v
    | .field e => do field (← fieldNumber (← eval h n e))
    | .element v key =>
      let name ← tableOf v
      let k ← keyOfAll (← evalAll h n key)
      changeTable name (·.ask k true)
      return ((← table name).get? k).getD .unset
    | .assign p op e =>
      let place ← placeOf h n p
      match op with
      | none =>
        let v ← eval h n e
        place.set v
        return v
      | some op =>
        let right := (← eval h n e).float
        let left := (← place.value).float
        let v := Value.number (Operator.apply op left right)
        place.set v
        return v
    | .step p up after =>
      let place ← placeOf h n p
      let old := (← place.value).float
      let new := if up then old + 1.0 else old - 1.0
      place.set (.number new)
      return .number (if after then old else new)
    | .negate e => return .number (-(← eval h n e).float)
    | .plus e => return .number (← eval h n e).float
    | .not e => return .ofBool (!(← eval h n e).truth)
    | .binary op a b =>
      let x := (← eval h n a).float
      let y := (← eval h n b).float
      return .number (Operator.apply op x y)
    | .concat a b =>
      let s ← textOf (← eval h n a)
      let t ← textOf (← eval h n b)
      return .text (s ++ t)
    | .compare c a b =>
      let x ← eval h n a
      let y ← eval h n b
      return .ofBool (c.holds (Value.compare (← conversion) x y))
    | .fits a b wanted =>
      let t ← textOf (← eval h n a)
      let m ← patternOf h n b
      return .ofBool (m.isIn (Text.bytes t).toArray == wanted)
    | .among key v =>
      let k ← keyOfAll (← evalAll h n key)
      let name ← tableOf v
      changeTable name (·.ask k false)
      return .ofBool ((← table name).get? k).isSome
    | .and a b =>
      if (← eval h n a).truth then return .ofBool (← eval h n b).truth else return .ofBool false
    | .or a b =>
      if (← eval h n a).truth then return .ofBool true else return .ofBool (← eval h n b).truth
    | .choice test yes no => if (← eval h n test).truth then eval h n yes else eval h n no
    | .call name args => call h n name args
    | .apply name args => apply h n name args
    | .nextRecord place =>
      let place ← placeOf? h n place
      receive place (← nextRecord) []
    | .readFile file place =>
      let name ← textOf (← eval h n file)
      let place ← placeOf? h n place
      if ← openSource h name false then receive place (← nextOf name false) []
      else return .number (-1.0)
    | .readCommand text place =>
      let name ← textOf (← eval h n text)
      let place ← placeOf? h n place
      let _ ← openSource h name true
      receive place (← nextOf name true) []

/-- The values of expressions. -/
def evalAll (h : Host) : Nat → List Expr → Act (List Value)
  | 0, _ => pure []
  | _, [] => pure []
  | n + 1, e :: es => do
    let v ← eval h n e
    return v :: (← evalAll h n es)

/-- The place that an expression is. -/
def placeOf (h : Host) : Nat → Expr → Act Place
  | 0, _ => fail "function call nesting too deep for evaluation stack".toList
  | n + 1, e => do
    match e with
    | .var v => return .var v
    | .field e => return .field (← fieldNumber (← eval h n e))
    | .element v key =>
      let name ← tableOf v
      let k ← keyOfAll (← evalAll h n key)
      changeTable name (·.ask k true)
      return .element name k
    | _ => fail "line 1: syntax error at or near =".toList

/-- The place that an expression is, if there is one. -/
def placeOf? (h : Host) : Nat → Option Expr → Act (Option Place)
  | 0, _ => pure none
  | _, none => pure none
  | n + 1, some e => do return some (← placeOf h n e)

/-- The regular expression that an expression stands for. -/
def patternOf (h : Host) : Nat → Expr → Act Matcher
  | 0, _ => matcher []
  | n + 1, e => do
    match e with
    | .regex t => matcher t
    | e => matcher (← textOf (← eval h n e))

/-- What a function of the program gives back. -/
def call (h : Host) : Nat → Text → List Expr → Act Value
  | 0, _, _ => fail "function call nesting too deep for evaluation stack".toList
  | n + 1, name, args => do
    match h.program.functions.lookup name with
    | none => fail ("function ".toList ++ name ++ " never defined".toList)
    | some f =>
      let slots ← slotsOf h n args
      let missing := f.params.length - slots.length
      let s ← get
      let outer := s.slots
      let made := s.made
      let fresh := (List.range missing).map fun i => Slot.untold ('#' :: Integer.digits (made + i))
      set { s with slots := (slots ++ fresh).toArray, made := made + missing }
      let value ← tryCatch
        (do
          execAll h n f.body
          pure Value.unset)
        fun stop =>
          match stop with
          | .giveBack v => pure v
          | stop => throw stop
      modify fun s => { s with slots := outer }
      return value

/-- What the parameters of a function hold for arguments. -/
def slotsOf (h : Host) : Nat → List Expr → Act (List Slot)
  | 0, _ => pure []
  | _, [] => pure []
  | n + 1, e :: es => do
    let slot : Slot ← match e with
      | .var (.global name) =>
        let s ← get
        if s.tables.contains name then pure (.table name)
        else if name != "NF".toList && !s.values.contains name then pure (.untold name)
        else .value <$> valueOf (.global name)
      | .var (.param i) => pure (((← get).slots[i]?).getD (.value .unset))
      | e => .value <$> eval h n e
    return slot :: (← slotsOf h n es)

/-- What a function that every program has gives back. -/
def apply (h : Host) : Nat → Text → List Expr → Act Value
  | 0, _, _ => fail "function call nesting too deep for evaluation stack".toList
  | n + 1, name, args => do
    match String.ofList name, args with
    | "length", [] =>
      join
      return Value.ofNat (← get).record.length
    | "length", [.var v] =>
      let isTable ← match v with
        | .global name => pure ((← get).tables.contains name)
        | .param i => do
          match (← get).slots[i]? with
          | some (.table _) => pure true
          | _ => pure false
      if isTable then return Value.ofNat (← table (← tableOf v)).size
      else return Value.ofNat (← textOf (← valueOf v)).length
    | "length", e :: _ => return Value.ofNat (← textOf (← eval h n e)).length
    | "match", a :: b :: _ =>
      let t ← textOf (← eval h n a)
      let m ← patternOf h n b
      let (start, length) : Int × Int := match m.span? (Text.bytes t).toArray 0 with
        | some (a, b) => (a + 1, b - a)
        | none => (0, -1)
      setVar (.global "RSTART".toList) (.number (Float.ofInt start))
      setVar (.global "RLENGTH".toList) (.number (Float.ofInt length))
      return .number (Float.ofInt start)
    | "split", a :: .var v :: sep =>
      let t ← textOf (← eval h n a)
      let separator : Separator ← match sep with
        | [] => separator (← storedText "FS")
        | .regex r :: _ => .regex <$> matcher r
        | e :: _ => do separator (← textOf (← eval h n e))
      let pieces := separator.fields t
      let name ← tableOf v
      changeTable name fun _ => Table.ofList (pieces.map Value.ofOutside)
      return Value.ofNat pieces.length
    | "sub", a :: b :: place => substitute h n false a b place
    | "gsub", a :: b :: place => substitute h n true a b place
    | _, _ =>
      let vs ← evalAll h n args
      match ← simple? h name vs with
      | some v => return v
      | none => return .unset

/-- Puts something in place of matches, and gives back how many there were. -/
def substitute (h : Host) : Nat → Bool → Expr → Expr → List Expr → Act Value
  | 0, _, _, _, _ => pure .unset
  | n + 1, all, a, b, target => do
    let m ← patternOf h n a
    let by_ ← textOf (← eval h n b)
    let place : Option Place ← match target with
      | [] => pure (some (.field 0))
      | e :: _ => if e.isPlace then some <$> placeOf h n e else pure none
    let t ← match place, target with
      | some place, _ => do textOf (← place.value)
      | none, e :: _ => do textOf (← eval h n e)
      | none, [] => pure []
    let (new, k) := substituted m (Text.bytes t).toArray by_ all (2 * t.length + 2) 0 false t
    match place with
    | some place => if 0 < k then place.set (.text new)
    | none => pure ()
    return Value.ofNat k

/-- Does a statement. -/
def exec (h : Host) : Nat → Statement → Act Unit
  | 0, _ => fail "function call nesting too deep for evaluation stack".toList
  | n + 1, s => do
    match s with
    | .block body => execAll h n body
    | .run e =>
      let _ ← eval h n e
    | .print args goal =>
      let t ← if args.isEmpty then do
          join
          pure (← get).record
        else do
          let ofs ← storedText "OFS"
          let format ← storedText "OFMT"
          let vs ← evalAll h n args
          pure (ofs.intercalate (vs.map (Value.shown format)))
      direct h n (t ++ (← storedText "ORS")) goal
    | .printf args goal =>
      let (t, fault) ← formatted "printf" (← evalAll h n args)
      direct h n t goal
      fault
    | .branch test yes no => if (← eval h n test).truth then exec h n yes else exec h n no
    | .repeatWhile test body =>
      iterate (do if (← eval h n test).truth then turn (exec h n body) else pure false) forever
    | .repeatUntil body test =>
      iterate (do if ← turn (exec h n body) then pure (← eval h n test).truth else pure false)
        forever
    | .loop before test after body =>
      exec h n before
      iterate
        (do
          let goesOn ← match test with
            | some e => do pure (← eval h n e).truth
            | none => pure true
          if goesOn then
            if ← turn (exec h n body) then
              exec h n after
              pure true
            else pure false
          else pure false)
        forever
    | .each v name body =>
      let name ← tableOf name
      let (keys, t) := (← table name).names
      changeTable name fun _ => t
      forKeys v (turn (exec h n body)) keys
    | .breakOff => throw .breakOff
    | .goOn => throw .goOn
    | .next => throw .next
    | .nextFile => throw .nextFile
    | .exit code =>
      match code with
      | some e =>
        let code := Float.whole (← eval h n e).float
        modify fun s => { s with code }
      | none => pure ()
      throw .exit
    | .giveBack value =>
      let v ← match value with
        | some e => eval h n e
        | none => pure .unset
      throw (.giveBack v)
    | .delete v key =>
      let name ← tableOf v
      let k ← keyOfAll (← evalAll h n key)
      changeTable name (·.erase k)
    | .clear v =>
      let name ← tableOf v
      changeTable name fun _ => {}

/-- Does statements one after another. -/
def execAll (h : Host) : Nat → List Statement → Act Unit
  | 0, _ => pure ()
  | _, [] => pure ()
  | n + 1, s :: ss => do
    exec h n s
    execAll h n ss

/-- Writes to where a statement says. -/
def direct (h : Host) : Nat → Text → Direction → Act Unit
  | 0, _, _ => pure ()
  | n + 1, t, goal => do
    match goal with
    | .plain => writeOut t
    | .anew e =>
      stream h (← textOf (← eval h n e)) .file false
      writeFirst t
    | .onto e =>
      stream h (← textOf (← eval h n e)) .file true
      writeFirst t
    | .into e =>
      stream h (← textOf (← eval h n e)) .command false
      writeFirst t

end

/-! ### Rules -/

/-- More than any program is nested. -/
def depth : Nat := 100000

/-- The body of a rule, or the writing of the record. -/
def body (h : Host) (r : Rule) : Act Unit :=
  match r.body with
  | some b => execAll h depth b
  | none => exec h depth (.print [] .plain)

/-- A rule is for the record. -/
def applies (h : Host) (p : Pattern) : Act Bool := do
  match p with
  | .always => return true
  | .when e => return (← eval h depth e).truth
  | .between first last k =>
    let isOpen := (← get).ranges.contains k
    let begins ← if isOpen then pure true else do pure (← eval h depth first).truth
    if !begins then return false
    let ends := (← eval h depth last).truth
    modify fun s =>
      { s with
        ranges := if ends then s.ranges.erase k else if isOpen then s.ranges else k :: s.ranges }
    return true
  | _ => return false

/-- Applies the rules to the record. -/
def rules (h : Host) : List Rule → Act Unit
  | [] => pure ()
  | r :: rs => do
    if ← applies h r.pattern then body h r
    rules h rs

/-- The rule is done at the beginning. -/
def isStart (r : Rule) : Bool :=
  match r.pattern with
  | .start => true
  | _ => false

/-- The rule is done at the end. -/
def isFinish (r : Rule) : Bool :=
  match r.pattern with
  | .finish => true
  | _ => false

/-- Applies the rules to all records. -/
def overRecords (h : Host) (rs : List Rule) : Act Unit :=
  iterate
    (do
      match ← nextRecord with
      | none => pure false
      | some t =>
        setRecord t
        tryCatch (rules h rs) fun stop =>
          match stop with
          | .next => pure ()
          | .nextFile =>
            modify fun s =>
              { s with origin := match s.origin with
                | .within _ _ next => .between next
                | o => o }
          | stop => throw stop
        pure true)
    forever

/-- Runs something up to its end or to where the program is left. -/
def untilExit (act : Act Unit) : Act Bool :=
  tryCatch (do act; pure true) fun stop =>
    match stop with
    | .exit => pure false
    | stop => throw stop

/-- Runs the whole program. -/
def whole (h : Host) : Act Unit := do
  let rs := h.program.rules
  let first := rs.filter isStart
  let last := rs.filter isFinish
  let others := rs.filter fun r => !isStart r && !isFinish r
  let goesOn ← untilExit (first.forM (body h))
  let goesOn ← if goesOn && !(others.isEmpty && last.isEmpty) then
      untilExit (overRecords h others)
    else pure goesOn
  let _ := goesOn
  let _ ← untilExit (last.forM (body h))

end Run

end AliasShell.Tools.Records
