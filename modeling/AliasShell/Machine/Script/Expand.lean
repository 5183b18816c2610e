/-
What words become when their command runs.

A word becomes a list of pieces: characters, of which some may separate fields, and marks for where
a value begins, for a field that is there without any character and for the end of one.  Fields are
cut out of the pieces at the characters of `IFS`, and a field with a pattern in it becomes the paths
that fit it.

Words may hold scripts.  How one is run for what it writes is the parameter `sub`: it runs a script
shielded from the one around it.
-/
import AliasShell.Machine.Script.Pattern
import AliasShell.Machine.Script.State
import AliasShell.Machine.Script.Sum

namespace AliasShell.Script

/-- A piece of what a word becomes. -/
inductive Piece where
  /-- a character, which may separate fields -/
  | glyph (g : Glyph) (splits : Bool)
  /-- one field ends here and another begins -/
  | gap
  /-- there is a field here, even if it is empty -/
  | present
  /-- a value begins here, which only gaps may cut -/
  | value (isSolid : Bool)
  deriving Repr, DecidableEq

namespace Piece

/-- The pieces of a text. -/
def ofText (quoted splits : Bool) (t : Text) : List Piece :=
  t.map fun c => .glyph ⟨c, quoted⟩ splits

/-- The pieces of a quoted text. -/
def ofQuoted (t : Text) : List Piece := if t.isEmpty then [.present] else ofText true false t

/-- The pieces of a value. -/
def ofValue (quoted : Bool) (t : Text) : List Piece :=
  if quoted then ofQuoted t else .value false :: ofText false true t

/-- The pieces of texts each of which is a field. -/
def ofTexts (quoted : Bool) (ts : List Text) : List Piece :=
  .value quoted :: [Piece.gap].intercalate (ts.map (ofText quoted !quoted))

/-- Pieces within quotes, which are a field in any case. -/
def within (quoted : Bool) (ps : List Piece) : List Piece :=
  if quoted && ps.isEmpty then [.present] else ps

/-- The characters of pieces that are not cut into fields; `separator` stands where fields end. -/
def glyphs (separator : Text) (ps : List Piece) : List Glyph :=
  ps.flatMap fun
    | .glyph g _ => [g]
    | .gap => Glyph.ofText true separator
    | .present | .value _ => []

end Piece

/-- Where parts of words stand. -/
structure Place where
  /-- within braces, where unquoted text separates fields -/
  braced : Bool
  /-- where all of them become one text -/
  whole : Bool
  /-- in a setting, where a home may stand after each `:` -/
  setting : Bool
  /-- at the beginning, where a home may stand -/
  starts : Bool
  /-- and other parts follow -/
  followed : Bool := false

namespace Place

/-- Where parts become one text. -/
def text : Place := ⟨false, true, false, false, false⟩

/-- Where parts become a path or a pattern. -/
def path : Place := ⟨false, true, false, true, false⟩

/-- Where parts become the value of a setting. -/
def value : Place := ⟨false, true, true, true, false⟩

/-- Among the words of a command. -/
def command : Place := ⟨false, false, false, true, false⟩

end Place

namespace State

/-! ### Values -/

/-- What stands between arguments that are written as one text. -/
def separator (s : State) : Text :=
  match s.var? "IFS" with
  | none => [' ']
  | some t => t.take 1

/-- The value of a parameter. -/
def value? (s : State) : Param → Option Text
  | .named name => s.var? name
  | .argument 0 => some s.self
  | .argument (n + 1) => s.args[n]?
  | .count => some (Integer.digits s.args.length)
  | .all _ => some (s.separator.intercalate s.args)
  | .status => some (Integer.digits s.status)
  | .self => some (Integer.digits s.main)
  | .background => s.lastJob.map Integer.digits
  | .options => some s.options

/-- How a complaint names a parameter. -/
def nameOf : Param → Text
  | .named name => name
  | .argument n => Integer.digits n
  | .count => ['#']
  | .all alone => if alone then ['@'] else ['*']
  | .status => ['?']
  | .self => ['$']
  | .background => ['!']
  | .options => ['-']

/-- Whether a parameter has to have a value where one is asked for. -/
def isStrict (s : State) : Param → Bool
  | .all _ => false
  | _ => s.has 'u'

/-- The value of a parameter that is asked for. -/
def valueOf (s : State) (p : Param) : State × Text :=
  match s.value? p with
  | some t => (s, t)
  | none => if s.isStrict p then (s.fail (nameOf p ++ ": parameter not set"), []) else (s, [])

/-- The texts that a parameter stands for where it may become several fields. -/
def textsOf (s : State) (quoted : Bool) : Param → Option (List Text)
  | .all alone =>
    if s.args.isEmpty ∨ quoted && !alone ∨ !quoted && (s.var? "IFS").isNone then none
    else some s.args
  | _ => none

/-- The pieces of a parameter. -/
def paramPieces (s : State) (quoted : Bool) : Param → State × List Piece
  | .all alone =>
    if quoted && !alone then (s, Piece.ofQuoted (s.separator.intercalate s.args))
    else (s, if s.args.isEmpty then [] else Piece.ofTexts quoted s.args)
  | p =>
    let (s, t) := s.valueOf p
    (s, Piece.ofValue quoted t)

/-! ### Home directories -/

/-- The home of a user, or of the one who runs the script. -/
def homeOf? (s : State) (user : Text) : Option Text :=
  if user.isEmpty then s.var? "HOME"
  else if user = "root".toList then some "/root"
  else none

/-- Text that begins a path, which may go on behind it, with the home that it begins with. -/
def homePath (s : State) (t : Text) (more : Bool) : Word :=
  match t with
  | '~' :: rest =>
    let user := rest.takeWhile (· != '/')
    let after := rest.drop user.length
    if more && after.isEmpty then [.literal false t]
    else
      match s.homeOf? user with
      | some home => if home.isEmpty then [.literal false after]
        else [.literal true home, .literal false after]
      | none => [.literal false t]
  | _ => [.literal false t]

/-- Texts that each begin a path, with `:` between them. -/
def homePaths (s : State) (more : Bool) : List Text → Word
  | [] => []
  | [t] => s.homePath t more
  | t :: ts => s.homePath t false ++ .literal false [':'] :: s.homePaths more ts

/-- Unquoted text with homes in place of `~`, which may go on behind it. -/
def withHomes (s : State) (place : Place) (t : Text) (more : Bool) : Word :=
  let texts : List Text := if place.setting then Text.cut (· == ':') t else [t]
  if place.starts then s.homePaths more texts
  else
    match texts with
    | u :: u' :: us => .literal false (u ++ [':']) :: s.homePaths more (u' :: us)
    | us => us.map (.literal false)

/-- The pieces of a text; within braces, unquoted text separates fields. -/
def literalPieces (place : Place) (quoted : Bool) (t : Text) : List Piece :=
  if quoted || place.braced then Piece.ofValue quoted t else Piece.ofText false false t

/-- The pieces of text, which may go on behind it. -/
def textPieces (s : State) (place : Place) (quoted : Bool) (t : Text) (more : Bool) :
    List Piece :=
  if quoted then Piece.ofQuoted t
  else
    (s.withHomes place t more).flatMap fun
      | .literal q u => literalPieces place q u
      | _ => []

/-! ### Scripts in words -/

/-- Bytes without the line ends at their end. -/
def withoutLineEnds (b : Bytes) : Bytes := (b.reverse.dropWhile (· == 10)).reverse

/-- The text that a script writes. -/
def captured (sub : Script → State → State) (body : Script) (s : State) : State × Text :=
  let n := s.freshStream
  let inner := s.connect 1 (.kept [] .free)
  let after := sub body { inner with guarded := false }
  let pieces := match after.streams.lookup n with
    | some (.kept pieces _) => pieces
    | _ => []
  let b := (pieces.reverse.flatten).filter (· != 0)
  ({ after with
      channels := s.channels
      streams := after.streams.filter (·.1 != n)
      guarded := s.guarded
      status := s.status
      substituted := some after.status },
    Bytes.numbered (withoutLineEnds b))

/-! ### Parts -/

/-- The value of an expression. -/
def sum (s : State) (t : Text) : State × Text :=
  let put (set : Sum.Settings) : State :=
    set.reverse.foldl (fun s x => if s.running then s.setVar x.1 (Integer.text x.2) else s) s
  match Sum.evaluate s.var t with
  | .ok (v, set) => (put set, Integer.text v)
  | .error (e, set) => (if (put set).running then (put set).fail (e.message t) else put set, [])

/-- Gives a parameter the value that it lacks. -/
def assign (s : State) (p : Param) (t : Text) : State :=
  match p with
  | .named name => s.setVar name t
  | p => s.fail (nameOf p ++ ": bad variable name")

mutual

/-- The pieces of a part. -/
def expandPart (sub : Script → State → State) (place : Place) :
    Part → State → State × List Piece
  | .literal quoted t, s => (s, s.textPieces place quoted t place.followed)
  | .param quoted p, s => s.paramPieces quoted p
  | .length quoted p, s =>
    let (s, t) := s.valueOf p
    (s, Piece.ofValue quoted (Integer.digits t.length))
  | .instead quoted p how emptyToo w, s =>
    let missing := match s.value? p with
      | none => true
      | some t => emptyToo && t.isEmpty
    match how with
    | .also =>
      if missing then (s, Piece.within quoted [])
      else
        let (s, ps) := expandParts sub { place with braced := true, starts := true } w s
        (s, Piece.within quoted ps)
    | .use =>
      if missing then
        let (s, ps) := expandParts sub { place with braced := true, starts := true } w s
        (s, Piece.within quoted ps)
      else s.paramPieces quoted p
    | .assign =>
      if missing then
        let (s, ps) := expandParts sub .path w s
        let t := Glyph.text (Piece.glyphs s.separator ps)
        if s.running then (s.assign p t, Piece.ofValue quoted t) else (s, [])
      else s.paramPieces quoted p
    | .fail =>
      if missing then
        let (s, ps) := expandParts sub .path w s
        let t := Glyph.text (Piece.glyphs s.separator ps)
        let why : Text :=
          if w.isEmpty then "parameter not set" ++ if emptyToo then " or null".toList else []
          else t
        (if s.running then s.fail (nameOf p ++ ": " ++ why) else s, [])
      else s.paramPieces quoted p
  | .strip quoted p fromEnd longest w, s =>
    let several := if place.whole then none else s.textsOf quoted p
    let joined := several.map [Pattern.division].intercalate
    match joined <|> s.value? p with
    | none =>
      let (s, _) := s.valueOf p
      (s, if s.running then Piece.ofValue quoted [] else [])
    | some t =>
      let (s, ps) := expandParts sub .path w s
      let pattern := Pattern.ofGlyphs (Piece.glyphs s.separator ps)
      let rest := pattern.strip fromEnd longest t
      (s, if several.isSome then Piece.ofTexts quoted (Text.cut (· == Pattern.division) rest)
        else Piece.ofValue quoted rest)
  | .output quoted body, s =>
    let (s, t) := captured sub body s
    (s, Piece.ofValue quoted t)
  | .sum quoted w, s =>
    let (s, ps) := expandParts sub .text w s
    if s.running then
      let (s, t) := s.sum (Glyph.text (Piece.glyphs s.separator ps))
      (s, Piece.ofValue quoted t)
    else (s, [])
  | .meaningless, s => (s.fail "Bad substitution", [])

/-- The pieces of parts, one after another, up to a fault. -/
def expandParts (sub : Script → State → State) (place : Place) :
    List Part → State → State × List Piece
  | [], s => (s, [])
  | part :: parts, s =>
    let (s, ps) := expandPart sub { place with followed := !parts.isEmpty } part s
    if s.running then
      let (s, qs) := expandParts sub { place with starts := false } parts s
      (s, ps ++ qs)
    else (s, ps)

end

/-! ### Fields -/

/-- The fields that are complete and the one that is being put together, each backwards. -/
structure Fields where
  done : List (List Glyph)
  last : List Glyph
  /-- something of the last field is there -/
  started : Bool
  /-- a blank has just ended a field, which one other separator may do too -/
  ended : Bool
  /-- only gaps cut the value that is gone through -/
  solid : Bool
  /-- and the one before it -/
  afterSolid : Bool
  deriving Repr, DecidableEq

namespace Fields

/-- No fields. -/
def none : Fields := ⟨[], [], false, false, false, false⟩

/-- The last field complete. -/
def close (f : Fields) (ended : Bool) : Fields :=
  { f with done := f.last.reverse :: f.done, last := [], started := false, ended }

/-- The last field with one more character. -/
def push (f : Fields) (g : Glyph) : Fields :=
  { f with last := g :: f.last, started := true, ended := false }

/-- Behind one more separator.  Blanks in front are no separators, and right behind a value that only
gaps cut no separator counts as one. -/
def separate (f : Fields) (isBlank : Bool) : Fields :=
  if f.ended then { f with ended := isBlank }
  else
    let ends := isBlank && !f.solid && !f.afterSolid
    if ends && !f.started then f else f.close ends

/-- One more piece; `ifs` are the characters that separate. -/
def add (ifs : Text) (f : Fields) : Piece → Fields
  | .present => { f with started := true }
  | .value isSolid => { f with ended := false, solid := isSolid, afterSolid := f.solid }
  | .gap => f.separate true
  | .glyph g splits =>
    if splits && ifs.contains g.char then f.separate (Sum.isSpace g.char) else f.push g

/-- The fields that pieces make. -/
def ofPieces (ifs : Text) (ps : List Piece) : List (List Glyph) :=
  let f := ps.foldl (add ifs) none
  ((if f.started || f.solid then f.close false else f).done).reverse

end Fields

/-- The characters that separate fields. -/
def fieldSeparators (s : State) : Text := (s.var? "IFS").getD " \t\n"

/-! ### Words -/

/-- The characters of a word that is not cut into fields. -/
def expandGlyphs (sub : Script → State → State) (s : State) (w : Word) : State × List Glyph :=
  let (s, ps) := expandParts sub .path w s
  (s, Piece.glyphs s.separator ps)

/-- The text of a word that is not cut into fields. -/
def expandText (sub : Script → State → State) (s : State) (w : Word) : State × Text :=
  let (s, gs) := s.expandGlyphs sub w
  (s, Glyph.text gs)

/-- The value in a setting. -/
def expandValue (sub : Script → State → State) (s : State) (w : Word) : State × Text :=
  let (s, ps) := expandParts sub .value w s
  (s, Glyph.text (Piece.glyphs s.separator ps))

/-- The words that a word becomes. -/
def expandWord (sub : Script → State → State) (s : State) (w : Word) : State × List Text :=
  let (s, ps) := expandParts sub .command w s
  let fields := Fields.ofPieces s.fieldSeparators ps
  (s, if s.has 'f' then fields.map Glyph.text else fields.flatMap (Pattern.expandPaths s.files))

/-- The words that words become; in settings, if they are looked for, the value stays whole. -/
def expandWords (sub : Script → State → State) (settings : Bool) :
    List Word → State → State × List Text
  | [], s => (s, [])
  | w :: ws, s =>
    let (s, ts) := match (if settings then w.setting? else none) with
      | some (name, value) =>
        let (s, t) := s.expandValue sub value
        (s, [name ++ '=' :: t])
      | none => s.expandWord sub w
    if s.running then
      let (s, us) := expandWords sub settings ws s
      (s, ts ++ us)
    else (s, [])

end State

end AliasShell.Script
