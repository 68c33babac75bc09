/-!
# Bytes as letters

Bytes that are written as letters, digits and two signs, four of them for three bytes. Equals signs
fill up the last four.

* `Base64.decode?` are the bytes that a text stands for.

A character that stands for nothing is passed over.
-/

namespace Extraction.Text.Base64

/-- The six bits that a character stands for. -/
def bits? (c : Char) : Option Nat :=
  if 'A' ≤ c && c ≤ 'Z' then some (c.toNat - 'A'.toNat)
  else if 'a' ≤ c && c ≤ 'z' then some (c.toNat - 'a'.toNat + 26)
  else if '0' ≤ c && c ≤ '9' then some (c.toNat - '0'.toNat + 52)
  else if c = '+' then some 62
  else if c = '/' then some 63
  else none

/-- The first groups of six bits of a text, and whether equals signs end the last four of them.
The numbers of groups since the last full four, and of equals signs since the last group, are
given. -/
def groupsFrom (filled signs : Nat) : List Char → List Nat × Bool
  | [] => ([], false)
  | '=' :: cs =>
    if 2 ≤ filled && 4 ≤ filled + signs + 1 then ([], true)
    -- An equals sign where nothing needs to be filled up counts for nothing.
    else groupsFrom filled (if 2 ≤ filled then signs + 1 else signs) cs
  | c :: cs =>
    match bits? c with
    | some bits =>
      let (groups, ended) := groupsFrom ((filled + 1) % 4) 0 cs
      (bits :: groups, ended)
    | none => groupsFrom filled signs cs

/-- The bytes of groups of six bits. Bits that fill no byte are dropped. -/
def bytes : List Nat → List UInt8
  | a :: b :: c :: d :: groups =>
    UInt8.ofNat (a * 4 + b / 16) :: UInt8.ofNat (b % 16 * 16 + c / 4) ::
      UInt8.ofNat (c % 4 * 64 + d) :: bytes groups
  | [a, b, c] => [UInt8.ofNat (a * 4 + b / 16), UInt8.ofNat (b % 16 * 16 + c / 4)]
  | [a, b] => [UInt8.ofNat (a * 4 + b / 16)]
  | _ => []

/-- The bytes that a text stands for, if its groups are complete. -/
def decode? (cs : List Char) : Option (List UInt8) :=
  let (groups, ended) := groupsFrom 0 0 cs
  if ended || groups.length % 4 = 0 then some (bytes groups) else none

end Extraction.Text.Base64
