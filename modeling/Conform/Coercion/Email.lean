import Conform.Text.Blank
import Conform.Text.Split

namespace Conform.Email
open Conform.Text

-- Characters that names in an address are made of.
def isPlain (c : Char) : Bool := !isBlank c && !"<>()[].,;:@\"".toList.contains c

def isName (text : List Char) : Bool := !text.isEmpty && text.all isPlain

def isQuoted (text : List Char) : Bool :=
  3 ≤ text.length && text.head? == some '"' && text.getLast? == some '"'
    && (text.drop 1).dropLast.all (· != '\n')

def isMailbox (text : List Char) : Bool := (split '.' text).all isName || isQuoted text

-- Two or more labels, the last of at least two characters.
def isDomain (text : List Char) : Bool :=
  let labels := split '.' text
  labels.all isName && 2 ≤ labels.length && labels.getLast?.any (2 ≤ ·.length)

-- A mailbox and a domain around the last at sign.
def isAddress (text : List Char) : Bool :=
  let domain := (text.reverse.takeWhile (· != '@')).reverse
  let mailbox := text.take (text.length - domain.length)
  mailbox.getLast? == some '@' && isMailbox mailbox.dropLast && isDomain domain

end Conform.Email
