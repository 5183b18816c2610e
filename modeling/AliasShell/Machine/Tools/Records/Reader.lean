/-
Reading programs over records.

    rule      := pattern? block | pattern separator
    pattern   := 'BEGIN' | 'END' | expr (',' expr)?
    expr      := joined | place op expr | expr '?' expr ':' expr | expr op expr
    joined    := sum+
    sum       := sum op sum | op sum | '(' expr ')' | sum '|' 'getline' place? | …

The operators of an expression bind more tightly the further down they stand here: `?:`, `||`, `&&`,
`in`, `~`, comparisons, the joining of texts, `+` and `-`, `*`, `/` and `%`, signs and `!`, `|`,
`^`, `++` and `--`, `$`.  Among what is printed, `>` and `|` say where to, unless they stand in
parentheses.
-/
import AliasShell.Machine.Tools.Records.Lexeme
import AliasShell.Machine.Tools.Records.Syntax

namespace AliasShell.Tools.Records

/-- How far the reading of a program has come. -/
structure Reading where
  rest : List Lexeme
  /-- how many parentheses and braces are open -/
  parens : Nat := 0
  braces : Nat := 0
  /-- the names of variables, and whether they are tables -/
  kinds : List (Text × Bool) := []
  /-- the parameters of the function that is read -/
  params : List Text := []
  inFunction : Bool := false
  /-- the rule is for records -/
  forRecords : Bool := false
  loops : Nat := 0
  /-- the functions so far, with how many parameters they have -/
  known : List (Text × Nat) := []
  /-- the functions that are called -/
  called : List Text := []
  ranges : Nat := 0
  /-- what was complained about, the last of it first -/
  complaints : List Text := []

/-- Reads something, or gives up after a complaint. -/
abbrev Read := EStateM Unit Reading

namespace Reader

/-! ### Words -/

/-- The number of the line of the next word. -/
def lineOf (r : Reading) : Nat := (r.rest.head?.map Lexeme.line).getD 1

/-- Complains about the line, and goes on. -/
def complain (t : Text) : Read Unit :=
  modify fun r =>
    { r with
      complaints := ("line ".toList ++ Integer.digits (lineOf r) ++ ": ".toList ++ t) ::
        r.complaints }

/-- The next word.  A parenthesis that closes nothing is complained about and left out. -/
def peek : Read Token := do
  let closing : Lexeme → Bool
    | ⟨.sign [')'], _⟩ => true
    | _ => false
  if (← get).parens = 0 then
    for _ in (← get).rest.takeWhile closing do
      complain "extra ')'".toList
      modify fun r => { r with rest := r.rest.tail }
  match (← get).rest with
  | l :: _ => return l.token
  | [] => return .finish

/-- How a complaint shows a word. -/
def shown : Token → Text
  | .number _ t => t
  | .text t => t
  | .regex t => '/' :: t ++ ['/']
  | .name t _ => t
  | .builtin t => t
  | .keyword t => t
  | .sign t => t
  | .lineEnd => "end of line"
  | .finish => "end of file"

/-- Gives up at the next word. -/
def unexpected {α : Type} : Read α := do
  let token ← peek
  let r ← get
  let (endsHere, endsAll, isBrace, isRule) : Bool × Bool × Bool × Bool := match token with
    | .sign t => (t == [';'] || t == ['\x7d'], false, t == ['\x7d'], false)
    | .lineEnd => (true, false, false, false)
    | .finish => (true, true, false, false)
    | .keyword t => (false, false, false, t == "BEGIN".toList || t == "END".toList)
    | _ => (false, false, false, false)
  if isBrace && r.braces = 0 then
    complain "extra '\x7d'".toList
    complain "syntax error at or near end of line".toList
  else if endsHere && r.parens != 0 then
    complain ("missing ) near ".toList ++ shown token)
    modify fun r => { r with parens := 0 }
  else if (endsAll || isRule) && r.braces != 0 then
    complain ("missing \x7d near ".toList ++ shown token)
    modify fun r => { r with braces := 0 }
  else complain ("syntax error at or near ".toList ++ shown token)
  throw ()

/-- Goes on behind the next word. -/
def advance : Read Unit :=
  modify fun r =>
    let counted : Reading := match r.rest with
      | ⟨.sign ['('], _⟩ :: _ => { r with parens := r.parens + 1 }
      | ⟨.sign [')'], _⟩ :: _ => { r with parens := r.parens - 1 }
      | ⟨.sign ['\x7b'], _⟩ :: _ => { r with braces := r.braces + 1 }
      | ⟨.sign ['\x7d'], _⟩ :: _ => { r with braces := r.braces - 1 }
      | _ => r
    { counted with rest := r.rest.tail }

/-- The next word is a sign. -/
def isSign (s : String) : Read Bool := return (← peek).isSign s.toList

/-- Goes on behind a sign, if it is the next word. -/
def take? (s : String) : Read Bool := do
  if ← isSign s then
    advance
    return true
  else return false

/-- Goes on behind a sign, which has to be the next word. -/
def expect (s : String) : Read Unit := do
  if !(← take? s) then unexpected

/-- The next word is a keyword. -/
def isKeyword (s : String) : Read Bool := do
  match ← peek with
  | .keyword t => return t == s.toList
  | _ => return false

/-- Goes on behind line ends; at most `n`. -/
def skipLines : Nat → Read Unit
  | 0 => return
  | n + 1 => do
    match ← peek with
    | .lineEnd =>
      advance
      skipLines n
    | _ => return

/-- Goes on behind the line ends in front. -/
def freely : Read Unit := do skipLines (← get).rest.length

/-! ### Names -/

/-- The variables that every program has, and whether they are tables. -/
def givenKinds : List (Text × Bool) :=
  (["NF", "NR", "FNR", "FS", "OFS", "ORS", "RS", "OFMT", "CONVFMT", "SUBSEP", "RSTART", "RLENGTH",
    "FILENAME", "ARGC"].map fun name => (name.toList, false)) ++
    [("ENVIRON".toList, true), ("ARGV".toList, true)]

/-- What a name stands for, where it is not known yet whether it is a table. -/
def varOf (name : Text) : Read Var := do
  let i := (← get).params.findIdx (· == name)
  return if i < (← get).params.length then .param i else .global name

/-- What a name stands for that is used as a table, or as none. -/
def use (name : Text) (isTable : Bool) : Read Var := do
  match ← varOf name with
  | .param i => return .param i
  | .global name =>
    match (← get).kinds.lookup name with
    | some kind =>
      if kind = isTable then return .global name
      else
        complain ("illegal reference to ".toList ++
          (if kind then "array " else "variable ").toList ++
          name)
        return .global name
    | none =>
      modify fun r => { r with kinds := (name, isTable) :: r.kinds }
      return .global name

/-! ### Expressions -/

/-- The operators that assign. -/
def assignments : List (String × Option Operator) :=
  [("=", none), ("+=", some .add), ("-=", some .sub), ("*=", some .mul), ("/=", some .div),
    ("%=", some .rem), ("^=", some .pow)]

/-- The operators between numbers, with how tightly they bind. -/
def operators : List (String × Operator × Nat) :=
  [("+", .add, 1), ("-", .sub, 1), ("*", .mul, 2), ("/", .div, 2), ("%", .rem, 2), ("^", .pow, 5)]

/-- The signs for comparisons. -/
def comparisons : List (String × Comparison) :=
  [("<", .less), ("<=", .atMost), ("==", .same), ("!=", .different), (">=", .atLeast),
    (">", .greater)]

/-- What a sign stands for in a list. -/
def ofSign {α : Type} (found : List (String × α)) : Token → Option α
  | .sign t => (found.find? fun e => e.1.toList == t).map (·.2)
  | _ => none

/-- The word begins an operand that is joined to the one in front. -/
def beginsOperand : Token → Bool
  | .number .. => true
  | .text _ => true
  | .regex _ => true
  | .name .. => true
  | .builtin _ => true
  | .keyword t => t == "getline".toList
  | .sign t => ["(", "$", "!", "-", "+", "++", "--"].any fun s => s.toList == t
  | _ => false

/-- The least and the greatest number of arguments of the functions that every program has. -/
def arities : List (String × Nat × Nat) :=
  [("index", 2, 2), ("substr", 2, 3), ("sprintf", 1, 255), ("sin", 1, 1), ("cos", 1, 1),
    ("atan2", 2, 2), ("exp", 1, 1), ("log", 1, 1), ("sqrt", 1, 1), ("int", 1, 1), ("rand", 0, 0),
    ("srand", 0, 1), ("tolower", 1, 1), ("toupper", 1, 1), ("system", 1, 1), ("close", 1, 1),
    ("fflush", 0, 1), ("systime", 0, 0), ("strftime", 0, 3), ("mktime", 1, 1)]

/-- The same for the functions that nothing else may be given than what they are for. -/
def fixedArities : List (String × Nat × Nat) :=
  [("length", 0, 1), ("match", 2, 2), ("sub", 2, 3), ("gsub", 2, 3)]

mutual

/-- An expression whose operators bind at least so tightly.  `printed` says that it stands among
what is printed. -/
def expr : Nat → Bool → Nat → Read Expr
  | 0, _, _ => unexpected
  | n + 1, printed, least => do
    let left ← joined n printed
    match ofSign assignments (← peek) with
    | some op =>
      if left.isPlace then
        advance
        return .assign left op (← expr n printed 0)
      else unexpected
    | none => continued n printed least left

/-- The expression that goes on from another. -/
def continued : Nat → Bool → Nat → Expr → Read Expr
  | 0, _, _, left => return left
  | n + 1, printed, least, left => do
    let token ← peek
    let isIn := match token with
      | .keyword t => t == "in".toList
      | _ => false
    let go (make : Expr → Expr) (more : Nat) : Read Expr := do
      advance
      let right ← expr n printed more
      continued n printed least (make right)
    if isIn && least ≤ 4 then
      advance
      match ← peek with
      | .name name _ =>
        advance
        let v ← use name true
        continued n printed least (.among [left] v)
      | _ => unexpected
    else
      let is (sign : String) : Bool := token.isSign sign.toList
      if is "?" then
        if 1 < least then return left
        advance
        let yes ← expr n printed 0
        expect ":"
        let no ← expr n printed 1
        continued n printed least (.choice left yes no)
      else if is "||" then if 2 < least then return left else go (.or left) 3
      else if is "&&" then if 3 < least then return left else go (.and left) 4
      else if is "~" then if 5 < least then return left else go (.fits left · true) 6
      else if is "!~" then if 5 < least then return left else go (.fits left · false) 6
      else
        match ofSign comparisons token with
        | some c =>
          if 6 < least ∨ (printed = true ∧ c = .greater) then return left
          else go (.compare c left) 7
        | none => return left

/-- Operands that stand side by side are joined. -/
def joined : Nat → Bool → Read Expr
  | 0, _ => unexpected
  | n + 1, printed => do joinedTo n printed (← sum n printed 0)

/-- The operands that are joined to another. -/
def joinedTo : Nat → Bool → Expr → Read Expr
  | 0, _, left => return left
  | n + 1, printed, left => do
    if beginsOperand (← peek) then
      let right ← sum n printed 0
      joinedTo n printed (.concat left right)
    else return left

/-- A sum whose operators bind at least so tightly. -/
def sum : Nat → Bool → Nat → Read Expr
  | 0, _, _ => unexpected
  | n + 1, printed, least => do
    let e ← signed n printed
    sumFrom n printed least e

/-- The sum that goes on from another. -/
def sumFrom : Nat → Bool → Nat → Expr → Read Expr
  | 0, _, _, left => return left
  | n + 1, printed, least, left => do
    let token ← peek
    match ofSign operators token with
    | some (op, strength) =>
      if strength < least then return left
      advance
      let right ← sum n printed (if strength = 5 then 5 else strength + 1)
      sumFrom n printed least (.binary op left right)
    | none =>
      if !token.isSign ['|'] || printed || 4 < least then return left
      advance
      if !(← isKeyword "getline") then unexpected
      advance
      let place ← place? n printed
      sumFrom n printed least (.readCommand left place)

/-- An operand with signs in front. -/
def signed : Nat → Bool → Read Expr
  | 0, _ => unexpected
  | n + 1, printed => do
    if ← take? "!" then return .not (← sum n printed 3)
    else if ← take? "-" then return .negate (← sum n printed 3)
    else if ← take? "+" then return .plus (← sum n printed 3)
    else
      let e ← operand n printed
      if e.isPlace then
        if ← take? "++" then return .step e true true
        else if ← take? "--" then return .step e false true
        else return e
      else return e

/-- A place that something is read into, if one follows. -/
def place? : Nat → Bool → Read (Option Expr)
  | 0, _ => return none
  | n + 1, printed => do
    match ← peek with
    | .sign t => if t == ['$'] then return some (← operand n printed) else return none
    | .name name called =>
      if called || ((← get).known.lookup name).isSome then return none
      return some (← operand n printed)
    | _ => return none

/-- An operand. -/
def operand : Nat → Bool → Read Expr
  | 0, _ => unexpected
  | n + 1, printed => do
    match ← peek with
    | .number x _ =>
      advance
      return .number x
    | .text t =>
      advance
      return .text t
    | .regex t =>
      advance
      return .regex t
    | .sign t =>
      if t == ['('] then
        advance
        let e ← expr n false 0
        if ← isSign "," then
          let es ← more n [e]
          expect ")"
          if !(← isKeyword "in") then unexpected
          advance
          match ← peek with
          | .name name _ =>
            advance
            return .among es (← use name true)
          | _ => unexpected
        else
          expect ")"
          return .group e
      else if t == ['$'] then
        advance
        let isCount : Bool := match ← peek with
          | .name t _ => t == "NF".toList
          | _ => false
        if isCount || (← isSign "-") || (← isSign "+") || (← isSign "!") then
          return .field (← signed n printed)
        else return .field (← operand n printed)
      else if t == ['+', '+'] || t == ['-', '-'] then
        advance
        let e ← operand n printed
        if e.isPlace then return .step e (t == ['+', '+']) false else unexpected
      else unexpected
    | .keyword t =>
      if t != "getline".toList then unexpected
      advance
      let place ← place? n printed
      if ← take? "<" then
        let file ← sum n printed 5
        return .readFile file place
      else return .nextRecord place
    | .builtin name =>
      advance
      builtin n name
    | .name name called =>
      advance
      if called || ((← get).known.lookup name).isSome then call n name
      else if ← take? "[" then
        let v ← use name true
        let e ← expr n false 0
        let key ← more n [e]
        expect "]"
        return .element v key
      else return .var (← use name false)
    | _ => unexpected

/-- Expressions with commas in front, behind others. -/
def more : Nat → List Expr → Read (List Expr)
  | 0, es => return es
  | n + 1, es => do
    if ← take? "," then
      let e ← expr n false 0
      more n (es ++ [e])
    else return es

/-- The argument of a function, which may be a table. -/
def argument : Nat → Read Expr
  | 0 => unexpected
  | n + 1 => do
    match (← get).rest with
    | ⟨.name name false, _⟩ :: ⟨.sign [c], _⟩ :: _ =>
      if (c = ',' ∨ c = ')') ∧ ((← get).known.lookup name).isNone then
        advance
        return .var (← varOf name)
      else expr n false 0
    | _ => expr n false 0

/-- The arguments up to the parenthesis that closes them. -/
def arguments : Nat → List Expr → Read (List Expr)
  | 0, _ => unexpected
  | n + 1, es => do
    if es.isEmpty then
      if ← take? ")" then return []
    else
      if ← take? ")" then return es
      expect ","
    let e ← argument n
    arguments n (es ++ [e])

/-- So many arguments up to the parenthesis that closes them; the third is a place. -/
def argumentsOf : Nat → Nat → Nat → List Expr → Read (List Expr)
  | 0, _, _, _ => unexpected
  | n + 1, least, most, es => do
    if ← isSign ")" then
      if es.length < least then unexpected
      advance
      return es
    else
      if !es.isEmpty then
        if es.length = most then unexpected
        expect ","
      let isPlace : Bool := match ← peek with
        | .name _ called => !called
        | token => (ofSign [("$", ())] token).isSome
      if es.length = 2 ∧ most = 3 ∧ isPlace = false then unexpected
      let e ← argument n
      argumentsOf n least most (es ++ [e])

/-- What is split, the table for the pieces, and what separates them. -/
def splitting : Nat → Read (List Expr)
  | 0 => unexpected
  | n + 1 => do
    let whole ← expr n false 0
    expect ","
    match ← peek with
    | .name name false =>
      advance
      let v ← varOf name
      if ← take? ")" then return [whole, .var v]
      else
        expect ","
        let e ← expr n false 0
        expect ")"
        return [whole, .var v, e]
    | _ => unexpected

/-- The call of a function of the program, behind its name. -/
def call : Nat → Text → Read Expr
  | 0, _ => unexpected
  | n + 1, name => do
    expect "("
    let args ← arguments n []
    match (← get).known.lookup name with
    | some arity =>
      if arity < args.length then complain ("too many arguments in call to " ++ name)
    | none => modify fun r => { r with called := name :: r.called }
    return .call name args

/-- The call of a function that every program has, behind its name. -/
def builtin : Nat → Text → Read Expr
  | 0, _ => unexpected
  | n + 1, name => do
    if name = "length".toList ∧ (← isSign "(") = false then return .apply name []
    expect "("
    let bounds (found : List (String × Nat × Nat)) : Option (Nat × Nat) :=
      (found.find? fun e => e.1.toList == name).map (·.2)
    match bounds fixedArities with
    | some (least, most) => return .apply name (← argumentsOf n least most [])
    | none =>
      if name = "split".toList then return .apply name (← splitting n)
      let args ← arguments n []
      let (least, most) := (bounds arities).getD (0, 255)
      if args.length < least ∨ most < args.length then
        complain ("wrong number of arguments in call to " ++ name)
      return .apply name args

end

/-! ### Statements -/

/-- Ends a statement. -/
def separator : Read Unit := do
  match ← peek with
  | .lineEnd => advance
  | .sign [c] => if c = ';' then advance else if c = '\x7d' then return else unexpected
  | _ => unexpected

/-- A statement ends here. -/
def endsHere : Read Bool := do
  match ← peek with
  | .lineEnd => return true
  | .sign [c] => return c == ';' || c == '\x7d'
  | _ => return false

/-- The words behind the parenthesis that closes what is open; `depth` more are. -/
def behindParens : Nat → List Lexeme → List Lexeme
  | _, [] => []
  | depth, ⟨.sign ['('], _⟩ :: ls => behindParens (depth + 1) ls
  | 0, ⟨.sign [')'], _⟩ :: ls => ls
  | depth + 1, ⟨.sign [')'], _⟩ :: ls => behindParens depth ls
  | depth, _ :: ls => behindParens depth ls

/-- What is printed. -/
def printed (n : Nat) : Read (List Expr) := do
  let isEnd : Token → Bool
    | .lineEnd => true
    | .finish => true
    | .sign t => [";", "\x7d", ">", ">>", "|"].any fun s => s.toList == t
    | _ => false
  let inParens : Bool := match (← get).rest with
    | ⟨.sign ['('], _⟩ :: ls => ((behindParens 0 ls).head?).any fun l => isEnd l.token
    | _ => false
  if inParens then
    advance
    arguments n []
  else if isEnd (← peek) then return []
  else
    let rec list : Nat → List Expr → Read (List Expr)
      | 0, es => return es
      | k + 1, es => do
        if ← take? "," then list k (es ++ [← expr n true 0]) else return es
    let e ← expr n true 0
    list (← get).rest.length [e]

/-- Where something is printed to. -/
def direction (n : Nat) : Read Direction := do
  if ← take? ">" then return .anew (← expr n true 0)
  else if ← take? ">>" then return .onto (← expr n true 0)
  else if ← take? "|" then return .into (← expr n true 0)
  else return .plain

/-- Goes on behind what ends a statement, after a complaint; at most `n` words. -/
def resume : Nat → Read Unit
  | 0 => throw ()
  | n + 1 => do
    match ← peek with
    | .finish => throw ()
    | .lineEnd | .sign [';'] =>
      advance
      modify fun r => { r with parens := 0 }
    | .sign ['\x7d'] => modify fun r => { r with parens := 0 }
    | _ =>
      advance
      resume n

/-- Reads something inside a loop. -/
def looping {α : Type} (read : Read α) : Read α := do
  modify fun r => { r with loops := r.loops + 1 }
  let a ← read
  modify fun r => { r with loops := r.loops - 1 }
  return a

/-- An expression that may be missing in front of a sign. -/
def upTo (n : Nat) (s : String) : Read (Option Expr) := do
  if ← take? s then return none
  else
    let e ← expr n false 0
    expect s
    return some e

mutual

/-- A statement. -/
def statement : Nat → Read Statement
  | 0 => unexpected
  | n + 1 => do
    match ← peek with
    | .sign ['\x7b'] =>
      advance
      return .block (← statements n)
    | .sign [';'] | .lineEnd =>
      advance
      return .block []
    | .sign ['\x7d'] => return .block []
    | .keyword word =>
      match String.ofList word with
      | "getline" => run n
      | "if" =>
        advance
        expect "("
        let test ← expr n false 0
        expect ")"
        freely
        let yes ← statement n
        if ← isKeyword "else" then
          advance
          freely
          return .branch test yes (← statement n)
        else return .branch test yes (.block [])
      | "while" =>
        advance
        expect "("
        let test ← expr n false 0
        expect ")"
        freely
        return .repeatWhile test (← looping (statement n))
      | "do" =>
        advance
        freely
        let body ← looping (statement n)
        if !(← isKeyword "while") then unexpected
        advance
        expect "("
        let test ← expr n false 0
        expect ")"
        separator
        return .repeatUntil body test
      | "for" => forLoop n
      | "break" =>
        if (← get).loops = 0 then complain "break statement outside of loop"
        advance
        separator
        return .breakOff
      | "continue" =>
        if (← get).loops = 0 then complain "continue statement outside of loop"
        advance
        separator
        return .goOn
      | "next" =>
        if !(← get).forRecords then complain "improper use of next"
        advance
        separator
        return .next
      | "nextfile" =>
        if !(← get).forRecords then complain "improper use of nextfile"
        advance
        separator
        return .nextFile
      | "exit" =>
        advance
        let code ← if ← endsHere then pure none else some <$> expr n false 0
        separator
        return .exit code
      | "return" =>
        if !(← get).inFunction then complain "return outside function body"
        advance
        let value ← if ← endsHere then pure none else some <$> expr n false 0
        separator
        return .giveBack value
      | "delete" =>
        advance
        match ← peek with
        | .name name _ =>
          advance
          let v ← use name true
          if ← take? "[" then
            let e ← expr n false 0
            let key ← more n [e]
            expect "]"
            separator
            return .delete v key
          else
            separator
            return .clear v
        | _ => unexpected
      | "print" =>
        advance
        let args ← printed n
        let goal ← direction n
        separator
        return .print args goal
      | "printf" =>
        advance
        let args ← printed n
        let goal ← direction n
        separator
        return .printf args goal
      | _ => unexpected
    | _ => run n

/-- An expression that is only worked out. -/
def run : Nat → Read Statement
  | 0 => unexpected
  | n + 1 => do
    let e ← expr n false 0
    separator
    return .run e

/-- A loop over numbers or names. -/
def forLoop : Nat → Read Statement
  | 0 => unexpected
  | n + 1 => do
    advance
    expect "("
    match (← get).rest with
    | ⟨.name v _, _⟩ :: ⟨.keyword ['i', 'n'], _⟩ :: ⟨.name table _, _⟩ :: ⟨.sign [')'], _⟩ :: _ =>
      advance
      advance
      advance
      advance
      freely
      let v ← use v false
      let table ← use table true
      return .each v table (← looping (statement n))
    | _ =>
      let before ← upTo n ";"
      let test ← upTo n ";"
      let after ← upTo n ")"
      freely
      let body ← looping (statement n)
      let doing (e : Option Expr) : Statement := match e with
        | some e => .run e
        | none => .block []
      return .loop (doing before) test (doing after) body

/-- The statements up to the brace that closes them. -/
def statements : Nat → Read (List Statement)
  | 0 => unexpected
  | n + 1 => do
    if ← take? "\x7d" then return []
    else
      let s ← tryCatch (statement n) fun _ => do
        resume (← get).rest.length
        return .block []
      return s :: (← statements n)

end

/-! ### Programs -/

/-- The statements in braces. -/
def block (n : Nat) : Read (List Statement) := do
  expect "\x7b"
  let body ← statements n
  -- a separator on the same line belongs to the block
  if ← isSign ";" then advance
  return body

/-- The names in parentheses. -/
def paramsOf : Nat → List Text → Read (List Text)
  | 0, _ => unexpected
  | n + 1, names => do
    if names.isEmpty then
      if ← take? ")" then return []
    else
      if ← take? ")" then return names
      expect ","
    freely
    match ← peek with
    | .name name _ =>
      if names.contains name then complain (name ++ " is duplicated in argument list")
      advance
      paramsOf n (names ++ [name])
    | _ => unexpected

/-- A function. -/
def function (n : Nat) : Read (Text × Function) := do
  advance
  match ← peek with
  | .name name _ =>
    if ((← get).known.lookup name).isSome then complain ("redefinition of " ++ name)
    advance
    expect "("
    let params ← paramsOf n []
    modify fun r =>
      { r with
        params, inFunction := true, forRecords := false
        known := (name, params.length) :: r.known }
    freely
    let body ← block n
    modify fun r => { r with params := [], inFunction := false }
    return (name, ⟨params, body⟩)
  | _ => unexpected

/-- A rule. -/
def rule (n : Nat) : Read Rule := do
  modify fun r => { r with forRecords := true }
  match ← peek with
  | .sign ['\x7b'] => return ⟨.always, some (← block n)⟩
  | .keyword word =>
    if word = "BEGIN".toList ∨ word = "END".toList then
      advance
      modify fun r => { r with forRecords := false }
      let body ← block n
      return ⟨if word = "BEGIN".toList then .start else .finish, some body⟩
    else if word = "getline".toList then patterned
    else unexpected
  | _ => patterned
where
  /-- A rule with an expression for a pattern. -/
  patterned : Read Rule := do
    let first ← expr n false 0
    let pattern ← if ← take? "," then
        let last ← expr n false 0
        modify fun r => { r with ranges := r.ranges + 1 }
        pure (.between first last (← get).ranges)
      else pure (.when first)
    if ← isSign "\x7b" then return ⟨pattern, some (← block n)⟩
    else
      match ← peek with
      | .lineEnd | .sign [';'] =>
        advance
        return ⟨pattern, none⟩
      | _ => unexpected

/-- The word begins a rule or a function. -/
def beginsRule : Token → Bool
  | .keyword t => ["BEGIN", "END", "function", "getline"].any fun s => s.toList == t
  | .sign ['\x7b'] => true
  | token => beginsOperand token

/-- Goes on at what begins a rule, after a complaint; at most `n` words. -/
def resumeRules : Nat → Read Unit
  | 0 => throw ()
  | n + 1 => do
    match ← peek with
    | .finish => throw ()
    | token =>
      if beginsRule token then modify fun r => { r with parens := 0, braces := 0, params := [] }
      else
        advance
        resumeRules n

/-- A program; `left` bounds how many rules and functions there are. -/
def program (n : Nat) : Nat → Program → Read Program
  | 0, g => return g
  | left + 1, g => do
    freely
    match ← peek with
    | .finish => return g
    | _ =>
      let read : Read Program := do
        if ← isKeyword "function" then
          let f ← function n
          return { g with functions := g.functions ++ [f] }
        else
          let r ← rule n
          return { g with rules := g.rules ++ [r] }
      let g ← tryCatch read fun _ => do
        resumeRules (← get).rest.length
        return g
      program n left g

/-- The wording of a fault among the words. -/
def faultText (e : Lexeme.Fault × Nat) : Text :=
  let line : Text := "line ".toList ++ Integer.digits e.2 ++ ": ".toList
  match e.1 with
  | .runaway isRegex t =>
    if isRegex then line ++ "runaway regular expression /".toList ++ t ++ " ...".toList
    else line ++ "runaway string constant \"".toList ++ t ++ " ...".toList
  | .strange c => Integer.digits e.2 ++ ": unexpected character '".toList ++ c :: ['\'']
  | .decimal t => line ++ "syntax error in decimal constant ".toList ++ t

end Reader

/-- The program that a text is, or complaints about it. -/
def Program.read (t : Text) : Except (List Text) Program :=
  match Lexeme.read t with
  | .error e => .error [Reader.faultText e]
  | .ok ls =>
    let n := 12 * ls.length + 50
    let start : Reading := { rest := ls, kinds := Reader.givenKinds }
    let (g, r) : Option Program × Reading := match (Reader.program n ls.length {}).run start with
      | .error _ r => (none, r)
      | .ok g r => (some g, r)
    match g, r.complaints with
    | some g, [] =>
      match r.called.find? fun name => (g.functions.lookup name).isNone with
      | some name =>
        .error ["line ".toList ++ Integer.digits ((ls.getLast?.map Lexeme.line).getD 1) ++
          ": function ".toList ++ name ++ " never defined".toList]
      | none => .ok g
    | _, complaints => .error (complaints.reverse.take 5)

end AliasShell.Tools.Records
