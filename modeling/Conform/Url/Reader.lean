import Conform.Url.Address
import Conform.Url.Domain

namespace Conform.Url
open Conform.Text

def startsQuery (c : Char) : Bool := c == '?' || c == '#'

-- A backslash is a slash where hosts and paths are compulsory.
def isSlash (special : Bool) (c : Char) : Bool := c == '/' || (special && c == '\\')

def endsAuthority (special : Bool) (c : Char) : Bool := isSlash special c || startsQuery c

namespace Host

def readBracketed? (text : List Char) : Option Host :=
  if text.getLast? == some ']' then (readIpv6? (text.drop 1).dropLast).map .ipv6 else none

def readName? (text : List Char) : Option Host := do
  let decoded ← String.fromUTF8? ⟨(decodeBytes text).toArray⟩
  let name ← Domain.toAscii? decoded.toList
  if name.isEmpty then none
  else if endsInNumber name then (readIpv4? name).map .ipv4
  else some (.name (.ofList name))

def readOpaque? (text : List Char) : Option Host :=
  if text.any ("\x00\t\n\r #/:<>?@[\\]^|".toList.contains ·) then none
  else some (.name (encode EncodingSet.controls text))

def read? (special : Bool) (text : List Char) : Option Host :=
  if text.head? == some '[' then readBracketed? text
  else if special then readName? text
  else readOpaque? text

end Host

-- A colon between brackets belongs to the host.
def hostLength (inside : Bool) : List Char → Nat
  | [] => 0
  | c :: rest =>
      if c == ':' && !inside then 0
      else hostLength (if c == '[' then true else if c == ']' then false else inside) rest + 1

-- The usual port of the scheme is not kept.
def readPort? (scheme : String) (text : List Char) : Option (Option Nat) :=
  if !text.all Char.isDigit then none
  else if text.isEmpty then some none
  else
    let port := text.foldl (fun value c => 10 * value + (c.toNat - '0'.toNat)) 0
    if 65535 < port then none
    else if defaultPort? scheme == some (some port) then some none
    else some (some port)

def readUser (text : List Char) : String × Option String :=
  let password := (text.dropWhile (· != ':')).drop 1
  (encode EncodingSet.userinfo (text.takeWhile (· != ':')),
   if password.isEmpty then none else some (encode EncodingSet.userinfo password))

structure Authority where
  user : String × Option String
  host : Host
  port : Option Nat

def Authority.read? (scheme : String) (text : List Char) : Option Authority := do
  let special := isSpecial scheme
  let beforeUser := text.reverse.dropWhile (· != '@')
  let user := (beforeUser.drop 1).reverse
  let place := (text.reverse.takeWhile (· != '@')).reverse
  let host := place.take (hostLength false place)
  let port := place.drop (hostLength false place)
  let account := readUser user
  if host.isEmpty && (special || !port.isEmpty || !(account.1 == "" && account.2.isNone)) then none
  let host ← Host.read? special host
  let port ← readPort? scheme (port.drop 1)
  some { user := account, host, port }

def isDrive : List Char → Bool
  | [letter, mark] => letter.isAlpha && (mark == ':' || mark == '|')
  | _ => false

-- How a segment is understood, in which an encoded dot is a dot.
inductive Step
  | stay
  | up
  | down (name : String)

def Step.ofSegment (file : Bool) (segment : List Char) : Step :=
  let plain := String.join ((split '%' (segment.map Char.toLower)).mapIdx fun index part =>
    if index == 0 then String.ofList part
    else match part with
      | '2' :: 'e' :: rest => String.ofList ('.' :: rest)
      | part => String.ofList ('%' :: part))
  if plain == "." then .stay
  else if plain == ".." then .up
  else
    let name := encode EncodingSet.path segment
    match file && isDrive name.toList, name.toList with
    | true, letter :: _ => .down (.ofList [letter, ':'])
    | _, _ => .down name

-- The last segment is no directory. The names done are kept in reverse.
def walk (file : Bool) (names : List String) : List (List Char) → List String
  | [] => names.reverse
  | segment :: rest =>
      let done := match Step.ofSegment file segment with
        | .stay => names
        | .up => match names with
            | last :: before => if file && isDrive last.toList then names else before
            | [] => []
        | .down name => name :: names
      if rest.isEmpty then
        match Step.ofSegment file segment with
        | .down _ => done.reverse
        | _ => ("" :: done).reverse
      else walk file done rest

def readPath (special file : Bool) (text : List Char) : List String :=
  let names := walk file [] (split '/' (text.map fun c => if isSlash special c then '/' else c))
  if file then
    match names.dropWhile (· == "") with
    | [] => [""]
    | names => names
  else names

def readTail (special : Bool) (text : List Char) : Option String × Option String :=
  let fragment := match text.dropWhile (· != '#') with
    | _ :: fragment => some (encode EncodingSet.fragment fragment)
    | [] => none
  let query := match text.takeWhile (· != '#') with
    | _ :: query => some (encode (if special then EncodingSet.specialQuery else EncodingSet.query) query)
    | [] => none
  (query, fragment)

def readFileHost? (text : List Char) : Option Host :=
  if text.isEmpty || isDrive text then some (.name "")
  else do
    match ← Host.read? true text with
    | .name "localhost" => some (.name "")
    | host => some host

-- The host is left out where the path begins with a drive.
def readFile? (text : List Char) : Option Url := do
  let body := text.takeWhile (!startsQuery ·)
  let (host, path) ← match body with
    | first :: second :: rest =>
        if isSlash true first && isSlash true second then do
          let place := rest.takeWhile (!isSlash true ·)
          let host ← readFileHost? place
          some (host, if isDrive place then rest else (rest.dropWhile (!isSlash true ·)).drop 1)
        else some (.name "", body)
    | body => some (.name "", body)
  let names := readPath true true path
  let host := if names.any fun name => isDrive name.toList then Host.name "" else host
  let (query, fragment) := readTail true (text.dropWhile (!startsQuery ·))
  some { scheme := "file", username := "", password := none, host := some host, port := none,
         location := .segments names, query, fragment }

def readHosted? (scheme : String) (text : List Char) : Option Url := do
  let special := isSpecial scheme
  let authority ← Authority.read? scheme (text.takeWhile (!endsAuthority special ·))
  let after := text.dropWhile (!endsAuthority special ·)
  let path := after.takeWhile (!startsQuery ·)
  let location := match path with
    | [] => if special then [""] else []
    | _ :: path => readPath special false path
  let (query, fragment) := readTail special (after.dropWhile (!startsQuery ·))
  some { scheme, username := authority.user.1, password := authority.user.2, host := some authority.host,
         port := authority.port, location := .segments location, query, fragment }

def readUnhosted (scheme : String) (text : List Char) : Url :=
  let path := text.takeWhile (!startsQuery ·)
  let location := match path with
    | '/' :: path => Location.segments (readPath false false path)
    | path => .opaque_ (encode EncodingSet.controls path)
  let (query, fragment) := readTail false (text.dropWhile (!startsQuery ·))
  { scheme, username := "", password := none, host := none, port := none, location, query, fragment }

def readScheme? (text : List Char) : Option (String × List Char) :=
  let isPart (c : Char) : Bool := c.isAlphanum || c == '+' || c == '-' || c == '.'
  match text.takeWhile isPart, text.dropWhile isPart with
  | first :: name, ':' :: rest =>
      if first.isAlpha then some (.ofList ((first :: name).map Char.toLower), rest) else none
  | _, _ => none

-- Controls and spaces around a locator, and tabs and line ends within it, do not count.
def clean (text : List Char) : List Char :=
  let isEdge (c : Char) : Bool := c.toNat ≤ 0x20
  ((text.dropWhile isEdge).reverse.dropWhile isEdge).reverse.filter
    fun c => c != '\t' && c != '\n' && c != '\r'

def parse? (text : String) : Option Url := do
  let (scheme, rest) ← readScheme? (clean text.toList)
  if scheme == "file" then readFile? rest
  else if isSpecial scheme then readHosted? scheme (rest.dropWhile (isSlash true))
  else match rest with
    | '/' :: '/' :: rest => readHosted? scheme rest
    | rest => some (readUnhosted scheme rest)

end Conform.Url
