namespace Conform

inductive Url.Host
  | name (value : String)
  | ipv4 (address : Nat)
  -- eight pieces of sixteen bits
  | ipv6 (pieces : List Nat)

inductive Url.Location
  -- text that is not divided, as in `mailto:` locators
  | opaque_ (text : String)
  | segments (names : List String)

structure Url where
  scheme : String
  username : String
  password : Option String
  host : Option Url.Host
  port : Option Nat
  location : Url.Location
  query : Option String
  fragment : Option String

namespace Url

structure EncodingSet where
  characters : String

namespace EncodingSet

def controls : EncodingSet := ⟨""⟩
def fragment : EncodingSet := ⟨" \"<>`"⟩
def query : EncodingSet := ⟨" \"#<>"⟩
def specialQuery : EncodingSet := ⟨" \"#<>'"⟩
def path : EncodingSet := ⟨" \"<>`#?\x7b\x7d"⟩
def userinfo : EncodingSet := ⟨" \"<>`#?\x7b\x7d/:;=@[\\]^|"⟩

def has (set : EncodingSet) (c : Char) : Bool := c.toNat < 0x20 || 0x7F ≤ c.toNat || set.characters.toList.contains c

end EncodingSet

def hexDigit (value : Nat) : Char := (Nat.digitChar value).toUpper

def percentByte (byte : UInt8) : List Char := ['%', hexDigit (byte.toNat / 16), hexDigit (byte.toNat % 16)]

def encode (set : EncodingSet) (text : List Char) : String :=
  .ofList (text.flatMap fun c => if set.has c then (String.utf8EncodeChar c).flatMap percentByte else [c])

def decodeBytes : List Char → List UInt8
  | [] => []
  | '%' :: high :: low :: rest =>
      match hexValue? high, hexValue? low with
      | some h, some l => UInt8.ofNat (16 * h + l) :: decodeBytes rest
      | _, _ => UInt8.ofNat '%'.toNat :: decodeBytes (high :: low :: rest)
  | c :: rest => String.utf8EncodeChar c ++ decodeBytes rest
where
  hexValue? (c : Char) : Option Nat :=
    if c.isDigit then some (c.toNat - '0'.toNat)
    else if 'a' ≤ c ∧ c ≤ 'f' then some (c.toNat - 'a'.toNat + 10)
    else if 'A' ≤ c ∧ c ≤ 'F' then some (c.toNat - 'A'.toNat + 10)
    else none

def defaultPort? (scheme : String) : Option (Option Nat) :=
  match scheme with
  | "http" | "ws" => some (some 80)
  | "https" | "wss" => some (some 443)
  | "ftp" => some (some 21)
  | "file" => some none
  | _ => none

def isSpecial (scheme : String) : Bool := (defaultPort? scheme).isSome

namespace Host

def ipv4Text (address : Nat) : String :=
  ".".intercalate ([16777216, 65536, 256, 1].map fun unit => toString (address / unit % 256))

def longestZeros (pieces : List Nat) : Nat × Nat :=
  let runs := (List.range pieces.length).map fun start => (start, ((pieces.drop start).takeWhile (· == 0)).length)
  runs.foldl (fun best run => if best.2 < run.2 then run else best) (0, 0)

def ipv6Text (pieces : List Nat) : String :=
  let write (pieces : List Nat) := ":".intercalate (pieces.map fun piece => String.ofList (Nat.toDigits 16 piece))
  let (start, count) := longestZeros pieces
  if count < 2 then write pieces
  else write (pieces.take start) ++ "::" ++ write (pieces.drop (start + count))

def text : Host → String
  | .name value => value
  | .ipv4 address => ipv4Text address
  | .ipv6 pieces => "[" ++ ipv6Text pieces ++ "]"

end Host

def authorityText (url : Url) : String :=
  let password := match url.password with
    | some password => ":" ++ password
    | none => ""
  let user := url.username ++ password
  let port := match url.port with
    | some port => ":" ++ toString port
    | none => ""
  let host := match url.host with
    | some host => host.text
    | none => ""
  (if user == "" then "" else user ++ "@") ++ host ++ port

def locationText : Location → String
  | .opaque_ text => text
  | .segments names => String.join (names.map ("/" ++ ·))

-- A path that begins with an empty segment would look like a host, so a dot goes before it.
def text (url : Url) : String :=
  let authority := match url.host with
    | some _ => "//" ++ url.authorityText
    | none => match url.location with
        | .segments ("" :: _ :: _) => "/."
        | _ => ""
  let query := match url.query with
    | some query => "?" ++ query
    | none => ""
  let fragment := match url.fragment with
    | some fragment => "#" ++ fragment
    | none => ""
  url.scheme ++ ":" ++ authority ++ locationText url.location ++ query ++ fragment

end Url
end Conform
