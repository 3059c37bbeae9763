import Conform.Registry.Basic

namespace Conform.Registry
open Conform.Text

def isInvisible (c : Char) : Bool :=
  c.toNat < 0x20 || (0x7f ≤ c.toNat && c.toNat < 0xa0) || (isBlank c && c != ' ') || c == '\u00ad'
    || ('\u0300' ≤ c && c ≤ '\u036f') || ('\u200b' ≤ c && c ≤ '\u200f') || ('\u202a' ≤ c && c ≤ '\u202e')
    || ('\u2060' ≤ c && c ≤ '\u206f') || c == '\ufeff' || ('\ue000' ≤ c && c.toNat < 0xf900) || 0xe0000 ≤ c.toNat

def outlineChar (c : Char) : List Char :=
  match c with
  | '"' => ['\\', '"']
  | '\\' => ['\\', '\\']
  | '\n' => ['\\', 'n']
  | '\r' => ['\\', 'r']
  | '\t' => ['\\', 't']
  | '\x00' => ['\\', '0']
  | c => if isInvisible c then ['\\', 'u', '\x7b'] ++ Nat.toDigits 16 c.toNat ++ ['\x7d'] else [c]

def outlineName (name : String) : String := .ofList ('"' :: name.toList.flatMap outlineChar ++ ['"'])

def outlineNames (table : Table α) : String := "[" ++ ", ".intercalate (table.names.map outlineName) ++ "]"

def outline (registry : Registry) : String :=
  "Registry \x7b types: TypeRegistry \x7b types: " ++ outlineNames registry.types
    ++ " \x7d, transforms: TransformRegistry \x7b transforms: " ++ outlineNames registry.transforms ++ " \x7d \x7d"

end Conform.Registry

namespace Conform

def TypeEntry.outline (entry : TypeEntry) : String :=
  "TypeEntry \x7b null_check_post: " ++ (if entry.nullAfter then "true" else "false") ++ ", .. \x7d"

def Transform.Factory.outline : Transform.Factory → String
  | .shared label _ => "Shared(" ++ label ++ ")"
  | .configurable _ => "Configurable"

end Conform
