import SchemaAtlas.Toml.Error
import SchemaAtlas.Text.Cursor

/-! # Scalars of settings files

Keys, strings, numbers, dates and times. Reading gives the scalar at the beginning of the
text ahead, and the place where it ends.
-/
namespace SchemaAtlas.Toml
open Text (Cursor hexDigit? maxDigits ofDigits)

abbrev Attempt := Except (Problem × Nat)

def isSpace (c : Char) : Bool := c = ' ' || c = '\t'

def isSpaceOrNewline (c : Char) : Bool := isSpace c || c = '\n'

def isBareKey (c : Char) : Bool := c.isAlphanum || c = '-' || c = '_'

def isControl (c : Char) : Bool := (c.toNat < 32 || c.toNat = 127) && c ≠ '\t'

def skipSpace (c : Cursor) : Cursor := c.skipWhile isSpace

def distanceTo? (word : List Char) : List Char → Option Nat
  | [] => if word.isEmpty then some 0 else none
  | s@(_ :: rest) => if word.isPrefixOf s then some 0 else (distanceTo? word rest).map (· + 1)

/-- The characters up to a closing word, none of which may be illegal. -/
def upTo (closing : String) (illegal : Char → Bool) (c : Cursor) :
    Attempt (List Char × Cursor) :=
  match distanceTo? closing.toList c.rest with
  | none => .error (.expected closing, c.offset + c.rest.length)
  | some n =>
    let body := c.rest.take n
    let good := body.takeWhile (!illegal ·)
    match body.drop good.length with
    | bad :: _ => .error (.invalidCharacter bad, c.offset + good.length)
    | [] => .ok (body, c.skip n)

def skipComment (c : Cursor) : Attempt Cursor :=
  if c.next? = some '#' then
    let body := (c.skip 1).rest.takeWhile (· ≠ '\n')
    let good := body.takeWhile (!isControl ·)
    match body.drop good.length with
    | bad :: _ => .error (.invalidCharacter bad, c.offset + 1 + good.length)
    | [] => .ok (c.skip (1 + body.length))
  else .ok c

def codePoint (size : Nat) (c : Cursor) : Attempt (Char × Cursor) :=
  let ds := c.rest.take size
  if ds.length ≠ size ∨ ds.any (fun d => (hexDigit? d).isNone) then
    .error (.invalidHex, c.offset)
  else
    let n := ofDigits 16 ds
    if n < 0xd800 ∨ (0xdfff < n ∧ n < 0x110000) then .ok (Char.ofNat n, c.skip size)
    else .error (.notScalar, c.offset + size)

def escape (multiline : Bool) (c : Cursor) : Attempt (List Char × Cursor) :=
  let after := c.skip 2
  let stop := c.offset + 2
  match c.rest.drop 1 with
  | e :: _ =>
    if multiline && e = '\n' then .ok ([], after.skipWhile isSpaceOrNewline)
    else if multiline && isSpace e then
      let c := skipSpace after
      match c.next? with
      | none => .ok ([], c)
      | some '\n' => .ok ([], (c.skip 1).skipWhile isSpaceOrNewline)
      | some _ => .error (.invalidEscape, c.offset)
    else match e with
      | 'u' => do
        let (d, after) ← codePoint 4 after
        return ([d], after)
      | 'U' => do
        let (d, after) ← codePoint 8 after
        return ([d], after)
      | 'b' => .ok (['\x08'], after)
      | 't' => .ok (['\t'], after)
      | 'n' => .ok (['\n'], after)
      | 'f' => .ok (['\x0c'], after)
      | 'r' => .ok (['\r'], after)
      | '"' => .ok (['"'], after)
      | '\\' => .ok (['\\'], after)
      | _ => .error (.invalidEscape, stop)
  | [] => .error (.invalidEscape, stop)

/-- The body of a string in double quotes, and the place after its closing quotes. -/
def basicBody (multiline : Bool) : Nat → Cursor → Attempt (List Char × Cursor)
  | 0, c => .error (.unterminatedString, c.offset)
  | fuel + 1, c =>
    match c.rest with
    | [] => .error (.unterminatedString, c.offset)
    | '"' :: _ =>
      if !multiline then .ok ([], c.skip 1)
      else if c.at? "\"\"\"" then .ok ([], c.skip 3)
      else do
        let (tail, after) ← basicBody multiline fuel (c.skip 1)
        return ('"' :: tail, after)
    | '\\' :: _ => do
      let (cs, after) ← escape multiline c
      let (tail, after) ← basicBody multiline fuel after
      return (cs ++ tail, after)
    | d :: _ =>
      if isControl d && !(multiline && d = '\n') then .error (.illegalCharacter d, c.offset)
      else do
        let (tail, after) ← basicBody multiline fuel (c.skip 1)
        return (d :: tail, after)

def basicString (c : Cursor) : Attempt (String × Cursor) := do
  let (cs, after) ← basicBody false (c.rest.length + 1) (c.skip 1)
  return (.ofList cs, after)

/-- A string on one line, in single quotes: nothing in it is an escape. -/
def literalString (c : Cursor) : Attempt (String × Cursor) := do
  let (cs, after) ← upTo "'" isControl (c.skip 1)
  return (.ofList cs, after.skip 1)

/-- A string over several lines. Up to two quotes may stand before the closing three. -/
def multilineString (quote : Char) (c : Cursor) : Attempt (String × Cursor) := do
  let c := c.skip 3
  let c := if c.next? = some '\n' then c.skip 1 else c
  let (cs, after) ←
    if quote = '\'' then do
      let (cs, after) ← upTo "'''" (fun d => isControl d && d ≠ '\n') c
      pure (cs, after.skip 3)
    else basicBody true (c.rest.length + 1) c
  let more := ((after.rest.take 2).takeWhile (· = quote))
  return (.ofList (cs ++ more), after.skip more.length)

def keyPart (c : Cursor) : Attempt (String × Cursor) :=
  match c.next? with
  | some '\'' => literalString c
  | some '"' => basicString c
  | some d =>
    if isBareKey d then
      let after := c.skipWhile isBareKey
      .ok (.ofList (c.rest.take (after.offset - c.offset)), after)
    else .error (.invalidKey, c.offset)
  | none => .error (.invalidKey, c.offset)

def keyRest : Nat → List String → Cursor → Attempt (List String × Cursor)
  | 0, read, c => .ok (read, c)
  | fuel + 1, read, c =>
    let c := skipSpace c
    if c.next? = some '.' then do
      let (part, after) ← keyPart (skipSpace (c.skip 1))
      keyRest fuel (read ++ [part]) after
    else .ok (read, c)

def key (c : Cursor) : Attempt (List String × Cursor) := do
  let (part, after) ← keyPart c
  keyRest (c.rest.length + 1) [part] after

/-- The length of a run of digits in which single underscores may stand between two. -/
def digitRun (isDigit : Char → Bool) : List Char → Nat
  | c :: rest =>
    if isDigit c then 1 + digitRun isDigit rest
    else if c = '_' then
      match rest with
      | d :: _ => if isDigit d then 1 + digitRun isDigit rest else 0
      | [] => 0
    else 0
  | [] => 0

def digits (isDigit : Char → Bool) (s : List Char) : Nat :=
  match s with
  | c :: _ => if isDigit c then digitRun isDigit s else 0
  | [] => 0

def basedInteger? (s : List Char) : Option (Int × Nat) :=
  let read (base : Nat) (isDigit : Char → Bool) (ds : List Char) : Option (Int × Nat) :=
    match digits isDigit ds with
    | 0 => none
    | n => some (ofDigits base (ds.take n), n + 2)
  match s with
  | '0' :: 'x' :: ds => read 16 (fun c => (hexDigit? c).isSome) ds
  | '0' :: 'o' :: ds => read 8 (fun c => '0' ≤ c && c ≤ '7') ds
  | '0' :: 'b' :: ds => read 2 (fun c => c = '0' || c = '1') ds
  | _ => none

def signLength (s : List Char) : Nat :=
  match s with
  | '+' :: _ | '-' :: _ => 1
  | _ => 0

def decimal? (s : List Char) : Option (Except Nat (Value × Nat)) :=
  let sign := signLength s
  let negative := s.head? = some '-'
  let body := s.drop sign
  let whole := match body with
    | '0' :: _ => 1
    | _ => digits Char.isDigit body
  if whole = 0 then none
  else
    let rest := body.drop whole
    let fraction := match rest with
      | '.' :: ds => match digits Char.isDigit ds with
        | 0 => 0
        | n => n + 1
      | _ => 0
    let tail := rest.drop fraction
    let exponent := match tail with
      | e :: more =>
        if e = 'e' ∨ e = 'E' then
          match digits Char.isDigit (more.drop (signLength more)) with
          | 0 => 0
          | n => 1 + signLength more + n
        else 0
      | [] => 0
    let size := sign + whole + fraction + exponent
    let wholeDigits := (body.take whole).filter Char.isDigit
    if fraction + exponent = 0 then
      if maxDigits < wholeDigits.length then some (.error wholeDigits.length)
      else
        let n : Int := ofDigits 10 wholeDigits
        some (.ok (.int (if negative then -n else n), size))
    else
      let places := (rest.take fraction).filter Char.isDigit
      let exponentText := (tail.take exponent).drop 1
      let e : Int := ofDigits 10 (exponentText.filter Char.isDigit)
      let e := if exponentText.head? = some '-' then -e else e
      let d : Number.Decimal := ⟨ofDigits 10 (wholeDigits ++ places), e - places.length⟩
      some (.ok (.float (d.toFloat negative), size))

def specialFloat? (s : List Char) : Option (Value × Nat) :=
  let sign := signLength s
  let negative := s.head? = some '-'
  let word := (s.drop sign).take 3
  if word = ['i', 'n', 'f'] then some (.float (Number.infinity negative), sign + 3)
  else if word = ['n', 'a', 'n'] then some (.float Number.nan, sign + 3)
  else none

def fixedDigits? (size : Nat) (s : List Char) : Option Nat :=
  let ds := s.take size
  if ds.length = size ∧ ds.all Char.isDigit then some (ofDigits 10 ds) else none

/-- The time of day at the beginning of a text, and its length. Digits past the
microseconds are dropped. -/
def timeOfDay? (s : List Char) : Option (Clock × Nat) := do
  let hour ← fixedDigits? 2 s
  let minute ← fixedDigits? 2 (s.drop 3)
  let second ← fixedDigits? 2 (s.drop 6)
  guard (hour < 24 ∧ minute < 60 ∧ second < 60)
  guard ((s.drop 2).head? = some ':' ∧ (s.drop 5).head? = some ':')
  match s.drop 8 with
  | '.' :: more =>
    let ds := more.takeWhile Char.isDigit
    let micros := ds.take 6 ++ List.replicate (6 - ds.length) '0'
    if ds.isEmpty then some (⟨hour, minute, second, 0⟩, 8)
    else some (⟨hour, minute, second, ofDigits 10 micros⟩, 9 + ds.length)
  | _ => some (⟨hour, minute, second, 0⟩, 8)

/-- The offset from universal time at the beginning of a text in minutes, and its length. -/
def timeOffset? (s : List Char) : Option (Int × Nat) := do
  match s with
  | 'Z' :: _ | 'z' :: _ => some (0, 1)
  | sign :: rest =>
    guard (sign = '+' ∨ sign = '-')
    let hour ← fixedDigits? 2 rest
    let minute ← fixedDigits? 2 (rest.drop 3)
    guard (hour < 24 ∧ minute < 60 ∧ (rest.drop 2).head? = some ':')
    let minutes : Int := 60 * hour + minute
    some (if sign = '-' then -minutes else minutes, 6)
  | [] => none

def daysIn (year month : Nat) : Nat :=
  if month = 2 then
    if year % 4 = 0 ∧ (year % 100 ≠ 0 ∨ year % 400 = 0) then 29 else 28
  else if month = 4 ∨ month = 6 ∨ month = 9 ∨ month = 11 then 30 else 31

/-- The date with or without a time at the beginning of a text, and its length; nothing
inside if there is no such day. -/
def date? (s : List Char) : Option (Option (Moment × Nat)) := do
  let year ← fixedDigits? 4 s
  let month ← fixedDigits? 2 (s.drop 5)
  let day ← fixedDigits? 2 (s.drop 8)
  guard ((s.drop 4).head? = some '-' ∧ (s.drop 7).head? = some '-')
  guard (0 < month ∧ month ≤ 12 ∧ 0 < day ∧ day ≤ 31)
  let real := 0 < year ∧ day ≤ daysIn year month
  let date : Day := ⟨year, month, day⟩
  let time := match s.drop 10 with
    | c :: rest => if c = 'T' ∨ c = 't' ∨ c = ' ' then timeOfDay? rest else none
    | [] => none
  let found : Moment × Nat := match time with
    | none => (.date date, 10)
    | some (clock, size) => match timeOffset? (s.drop (11 + size)) with
      | none => (.dateTime date clock none, 11 + size)
      | some (minutes, more) => (.dateTime date clock (some minutes), 11 + size + more)
  return if real then some found else none

def momentOrNumber (c : Cursor) : Attempt (Value × Cursor) :=
  match date? c.rest with
  | some (some (m, size)) => .ok (.moment m, c.skip size)
  | some none => .error (.invalidMoment, c.offset)
  | none => match timeOfDay? c.rest with
    | some (clock, size) => .ok (.moment (.time clock), c.skip size)
    | none => match basedInteger? c.rest with
      | some (n, size) => .ok (.int n, c.skip size)
      | none => match decimal? c.rest with
        | some (.ok (v, size)) => .ok (v, c.skip size)
        | some (.error count) => .error (.tooManyDigits count, c.offset)
        | none => match specialFloat? c.rest with
          | some (v, size) => .ok (v, c.skip size)
          | none => .error (.invalidValue, c.offset)

end SchemaAtlas.Toml
