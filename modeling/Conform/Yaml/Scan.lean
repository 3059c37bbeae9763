import Conform.Yaml.Basic
import Conform.Text.Split

namespace Conform.Yaml

-- `fresh` says that a block may begin here: nothing but blanks comes before it on the line.
structure Cursor where
  column : Nat
  fresh : Bool
  rest : List Char

namespace Cursor

def after (cursor : Cursor) (c : Char) (rest : List Char) : Cursor :=
  if c == '\n' then ⟨0, true, rest⟩ else ⟨cursor.column + 1, cursor.fresh && c == ' ', rest⟩

def advance (cursor : Cursor) : Nat → Cursor
  | 0 => cursor
  | count + 1 => match cursor.rest with
      | [] => cursor
      | c :: rest => (cursor.after c rest).advance count

def goTo (cursor : Cursor) (rest : List Char) : Cursor := cursor.advance (cursor.rest.length - rest.length)

def keyLimit : Nat := 1024

-- A key that no question mark tells of stands on one line with its colon, and is not long.
def keyEndsAt (start colon : Cursor) : Bool :=
  let key := start.rest.take (start.rest.length - colon.rest.length)
  key.length ≤ keyLimit && !key.contains '\n'

end Cursor

def isBlank (c : Char) : Bool := c == ' ' || c == '\t'

def endsWord : List Char → Bool
  | [] => true
  | c :: _ => isBlank c || c == '\n'

def isMarker (text : List Char) : Bool :=
  match text with
  | '-' :: '-' :: '-' :: rest | '.' :: '.' :: '.' :: rest => endsWord rest
  | _ => false

-- A tab where a block may begin is left for an error.
def skipFrom (flow comment : Bool) (cursor : Cursor) : List Char → Cursor
  | [] => { cursor with rest := [] }
  | c :: rest =>
      if c == '\n' then skipFrom flow false (cursor.after c rest) rest
      else if comment || c == ' ' || (c == '\t' && (flow || !cursor.fresh)) then
        skipFrom flow comment (cursor.after c rest) rest
      else if c == '#' then skipFrom flow true (cursor.after c rest) rest
      else { cursor with rest := c :: rest }

def Cursor.skip (cursor : Cursor) (flow : Bool) : Cursor := skipFrom flow false cursor cursor.rest

-- One line end is a space, and of several the first is left out.
def fold (lineEnds : Nat) : List Char := if lineEnds == 1 then [' '] else List.replicate (lineEnds - 1) '\n'

-- What has been read but not written: blanks that count only if text follows, or line ends.
inductive Gap
  | blanks (reversed : List Char)
  | lines (count : Nat)
  -- after a line end with a backslash
  | joined (count : Nat)

def Gap.flush (gap : Gap) (done : List Char) : List Char :=
  match gap with
  | .blanks reversed => reversed ++ done
  | .lines count => fold count ++ done
  | .joined count => List.replicate count '\n' ++ done

def Gap.blank (gap : Gap) (c : Char) : Gap :=
  match gap with
  | .blanks reversed => .blanks (c :: reversed)
  | gap => gap

def Gap.lineEnd : Gap → Gap
  | .blanks _ => .lines 1
  | .lines count => .lines (count + 1)
  | .joined count => .joined (count + 1)

def escape? (c : Char) : Option Char :=
  match c with
  | '0' => some '\x00'
  | 'a' => some '\x07'
  | 'b' => some '\x08'
  | 't' | '\t' => some '\t'
  | 'n' => some '\n'
  | 'v' => some '\x0b'
  | 'f' => some '\x0c'
  | 'r' => some '\r'
  | 'e' => some '\x1b'
  | ' ' | '"' | '/' | '\\' => some c
  | 'N' => some '\u0085'
  | '_' => some '\u00a0'
  | 'L' => some '\u2028'
  | 'P' => some '\u2029'
  | _ => none

def charOf? (digits : List Char) : Option Char := do
  let code ← digits? 16 digits
  if h : code.isValidChar then some (Char.ofNatAux code h) else none

def doubleQuoted (done : List Char) (gap : Gap) : List Char → Option (List Char × List Char)
  | [] => none
  | '"' :: rest => some ((gap.flush done).reverse, rest)
  | '\\' :: '\n' :: rest => doubleQuoted (gap.flush done) (.joined 0) rest
  | '\\' :: 'x' :: a :: b :: rest => do
      doubleQuoted ((← charOf? [a, b]) :: gap.flush done) (.blanks []) rest
  | '\\' :: 'u' :: a :: b :: c :: d :: rest => do
      doubleQuoted ((← charOf? [a, b, c, d]) :: gap.flush done) (.blanks []) rest
  | '\\' :: 'U' :: a :: b :: c :: d :: e :: f :: g :: h :: rest => do
      doubleQuoted ((← charOf? [a, b, c, d, e, f, g, h]) :: gap.flush done) (.blanks []) rest
  | '\\' :: c :: rest => do doubleQuoted ((← escape? c) :: gap.flush done) (.blanks []) rest
  | '\n' :: rest => if isMarker rest then none else doubleQuoted done gap.lineEnd rest
  | c :: rest =>
      if isBlank c then doubleQuoted done (gap.blank c) rest else doubleQuoted (c :: gap.flush done) (.blanks []) rest

def singleQuoted (done : List Char) (gap : Gap) : List Char → Option (List Char × List Char)
  | [] => none
  | '\'' :: '\'' :: rest => singleQuoted ('\'' :: gap.flush done) (.blanks []) rest
  | '\'' :: rest => some ((gap.flush done).reverse, rest)
  | '\n' :: rest => if isMarker rest then none else singleQuoted done gap.lineEnd rest
  | c :: rest =>
      if isBlank c then singleQuoted done (gap.blank c) rest else singleQuoted (c :: gap.flush done) (.blanks []) rest

def isFlowMark (c : Char) : Bool := c == ',' || c == '[' || c == ']' || c == '{' || c == '\x7d'

def startsPlain (flow : Bool) : List Char → Bool
  | [] => false
  | c :: rest =>
      if c == '-' then !endsWord rest
      else if c == '?' || c == ':' then !flow && !endsWord rest
      else !(isBlank c || c == '\n' || ",[]\x7b\x7d#&*!|>'\"%@`".toList.contains c)

def plainLine (flow afterBlank : Bool) : List Char → Option (List Char × List Char)
  | [] => some ([], [])
  | c :: rest =>
      if c == '\n' || (c == ':' && endsWord rest) || (c == '#' && afterBlank) || (flow && isFlowMark c) then
        some ([], c :: rest)
      else if flow && c == ':' && (rest.head?.any fun next => isFlowMark next || next == '?') then none
      else (plainLine flow (isBlank c) rest).map fun (line, rest) => (c :: line, rest)

def trimBlanks (text : List Char) : List Char := (text.reverse.dropWhile isBlank).reverse

def lineEnds (cursor : Cursor) : List Char → Nat × Cursor
  | [] => (0, { cursor with rest := [] })
  | c :: rest =>
      if c == '\n' then
        let (count, place) := lineEnds (cursor.after c rest) rest
        (count + 1, place)
      else if isBlank c then lineEnds (cursor.after c rest) rest
      else (0, { cursor with rest := c :: rest })

-- Lines that follow belong to a scalar if they are indented at least so far.
def plainScalar (fuel : Nat) (flow : Bool) (indent : Nat) (cursor : Cursor) : Option (List Char × Cursor) := do
  match fuel with
  | 0 => none
  | fuel + 1 =>
    let (line, _) ← plainLine flow true cursor.rest
    let line := trimBlanks line
    let place := cursor.advance line.length
    let (count, next) := lineEnds place place.rest
    let goesOn := 0 < count && (flow || indent ≤ next.column) && !(next.column == 0 && isMarker next.rest)
    let (following, _) ← plainLine flow true next.rest
    if goesOn && !following.isEmpty then
      let (text, place) ← plainScalar fuel flow indent next
      some (line ++ fold count ++ text, place)
    else some (line, place)

-- How the line ends after a block scalar are kept.
inductive Chomp
  | strip
  | clip
  | keep
deriving DecidableEq

structure BlockHeader where
  folded : Bool
  chomp : Chomp
  indent : Option Nat

def blockHeader? (text : List Char) : Option BlockHeader := do
  let (folded, marks) ← match text with
    | '|' :: marks => some (false, marks)
    | '>' :: marks => some (true, marks)
    | _ => none
  let chomp? (c : Char) : Option Chomp := match c with
    | '-' => some .strip
    | '+' => some .keep
    | _ => none
  let indent? (c : Char) : Option Nat := if c.isDigit && c != '0' then some (c.toNat - '0'.toNat) else none
  match marks with
  | [] => some ⟨folded, .clip, none⟩
  | [c] => match chomp? c with
      | some chomp => some ⟨folded, chomp, none⟩
      | none => (indent? c).map fun indent => ⟨folded, .clip, some indent⟩
  | [a, b] => match chomp? a, chomp? b with
      | some chomp, none => (indent? b).map fun indent => ⟨folded, chomp, some indent⟩
      | none, some chomp => (indent? a).map fun indent => ⟨folded, chomp, some indent⟩
      | _, _ => none
  | _ => none

def leadingSpaces (line : List Char) : Nat := (line.takeWhile (· == ' ')).length

def isSpaces (line : List Char) : Bool := line.all (· == ' ')

-- Blank lines before the first line with text count if they are longer.
def blockIndent (least : Nat) : List (List Char) → Nat
  | [] => least
  | line :: rest =>
      if isSpaces line && !rest.isEmpty then blockIndent (max least line.length) rest
      else max least (leadingSpaces line)

def blockLines (indent : Nat) (lines : List (List Char)) : List (List Char) :=
  (lines.takeWhile fun line => indent ≤ leadingSpaces line || isSpaces line).map (·.drop indent)

def startsBlank (line : List Char) : Bool := line.head?.any isBlank

-- `previous` is whether the line before began with a blank, if there is one.
def joinBlock (folded : Bool) (previous : Option Bool) (blankLines : Nat) : List (List Char) → List Char
  | [] => []
  | [] :: rest => joinBlock folded previous (blankLines + 1) rest
  | line :: rest =>
      let between := match previous with
        | none => List.replicate blankLines '\n'
        | some before =>
            if folded && !before && !startsBlank line then fold (blankLines + 1)
            else List.replicate (blankLines + 1) '\n'
      between ++ line ++ joinBlock folded (some (startsBlank line)) 0 rest

-- `text` begins at the first line of the block, and `parent` is one more than the column of the
-- block around it, or zero.
def blockScalar (header : BlockHeader) (parent : Nat) (text : List Char) : List Char × List Char :=
  let lines := Text.split '\n' text
  let least := max parent 1
  let indent := match header.indent with
    | some more => parent - 1 + more
    | none => blockIndent least lines
  let taken := blockLines indent lines
  -- a last line without a line end is no line, if it is empty
  let complete := taken.length < lines.length
  let counted := if complete then taken else match taken.getLast? with
    | some [] => taken.dropLast
    | _ => taken
  let ended := complete || counted.length < taken.length
  let trailing := (counted.reverse.takeWhile List.isEmpty).length
  let hasText := trailing < counted.length
  let tail := match header.chomp with
    | .strip => 0
    | .clip => if hasText && (ended || 0 < trailing) then 1 else 0
    | .keep => trailing + (if hasText && ended then 1 else 0)
  let after := lines.drop taken.length
  (joinBlock header.folded none 0 counted ++ List.replicate tail '\n', Text.join ['\n'] after)

end Conform.Yaml
