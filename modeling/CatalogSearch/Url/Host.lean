import CatalogSearch.Text.Letters
import CatalogSearch.Text.Percent
import CatalogSearch.Text.Split
import CatalogSearch.Url.Domain.Name
import CatalogSearch.Url.Fault

/-! # Hosts

The host of a URL is a domain name, an address of either version of the protocol, or, with schemes
that have hosts of their own, any name.

* **`Host`**: the kinds of hosts;
* **`Host.readIpv4`**, **`Host.readIpv6?`**: addresses;
* **`Host.read`**, **`Host.readOther`**: the host a text stands for;
* **`Host.text`**: a host as it stands in a URL. -/

namespace CatalogSearch

/-- **A host.** -/
inductive Host where
  | domain (name : List Char)
  | ipv4 (address : Nat)
  /-- Eight groups of 16 bits. -/
  | ipv6 (groups : List Nat)
  /-- A name of a scheme with hosts of its own. -/
  | other (name : List Char)
  deriving DecidableEq, Repr

namespace Host

/-! ## Addresses of version 4 -/

/-- A number of an address: decimal, octal after `0`, hexadecimal after `0x`. -/
def readPart? (cs : List Char) : Option Nat :=
  let digits (base : Nat) (cs : List Char) : Option Nat :=
    Text.readDigits? (fun c => (Text.hexValue? c).filter (· < base)) base 0 cs
  match cs with
  | [] => none
  | '0' :: 'x' :: cs | '0' :: 'X' :: cs => digits 16 cs
  | '0' :: c :: cs => digits 8 (c :: cs)
  | cs => digits 10 cs

/-- The parts of a name, without an empty one at the end. -/
def parts (cs : List Char) : List (List Char) :=
  let all := Text.splitOn (· == '.') cs
  if 1 < all.length && all.getLast? == some [] then all.dropLast else all

/-- **A name that ends in a number** can only be an address. -/
def endsInNumber (cs : List Char) : Bool :=
  match (parts cs).getLast? with
  | none => false
  | some part =>
    (!part.isEmpty && part.all fun c => (Text.digitValue? c).isSome) || (readPart? part).isSome

/-- How many values so many bytes have. -/
def byteValues (k : Nat) : Nat := Nat.pow 256 k

/-- The address of its numbers: the last one fills what the others leave. -/
def address? (numbers : List Nat) : Option Nat :=
  match numbers.getLast? with
  | none => none
  | some last =>
    let front := numbers.dropLast
    if front.length ≤ 3 ∧ front.all (· ≤ 255) ∧ last < byteValues (4 - front.length) then
      some (front.foldl (fun n k => n * 256 + k) 0 * byteValues (4 - front.length) + last)
    else none

/-- **The address of a name that ends in a number.** -/
def readIpv4? (cs : List Char) : Option Nat := ((parts cs).mapM readPart?).bind address?

/-- An address with points. -/
def ipv4Text (n : Nat) : List Char :=
  Text.joinWith ['.']
    ([3, 2, 1, 0].map fun k => Text.natDigits (n / byteValues k % 256))

/-! ## Addresses of version 6 -/

/-- A group of up to four hexadecimal digits. -/
def readGroup? (cs : List Char) : Option Nat :=
  if cs.isEmpty || 4 < cs.length then none else Text.readDigits? Text.hexValue? 16 0 cs

/-- A number of an address inside another: decimal, without leading zeros. -/
def readByte? (cs : List Char) : Option Nat :=
  if cs.head? = some '0' ∧ 1 < cs.length then none else (Text.readNat? cs).filter (· ≤ 255)

/-- The groups of a list of pieces, the last of which may be an address of version 4. -/
def readGroups? : List (List Char) → Option (List Nat)
  | [] => some []
  | [piece] =>
    match (Text.splitOn (· == '.') piece).mapM readByte? with
    | some [a, b, c, d] => some [a * 256 + b, c * 256 + d]
    | _ => (readGroup? piece).map ([·])
  | piece :: pieces => (readGroup? piece).bind fun g => (readGroups? pieces).map (g :: ·)

/-- The texts before and after the first `::`. -/
def splitGap? : List Char → Option (List Char × List Char)
  | ':' :: ':' :: cs => some ([], cs)
  | c :: cs => (splitGap? cs).map fun (front, rest) => (c :: front, rest)
  | [] => none

/-- The pieces of one side of an address, none of an empty side. -/
def pieces (cs : List Char) : List (List Char) :=
  if cs.isEmpty then [] else Text.splitOn (· == ':') cs

/-- **The eight groups of an address**; `::` stands for as many zeros as are missing, at least
one. -/
def readIpv6? (cs : List Char) : Option (List Nat) :=
  match splitGap? cs with
  | none => (readGroups? (pieces cs)).filter (·.length = 8)
  | some (front, rest) => do
    let front ← (pieces front).mapM readGroup?
    let rest ← readGroups? (pieces rest)
    -- More than eight groups leave nothing missing either, as subtraction stops at zero.
    let missing := 8 - (front.length + rest.length)
    if missing = 0 then none else some (front ++ List.replicate missing 0 ++ rest)

/-- How many zeros a list starts with. -/
def leadingZeros (gs : List Nat) : Nat := (gs.takeWhile (· == 0)).length

/-- The place and length of the first longest run of zeros, from place `i` on. -/
def longestZeros (i : Nat) : List Nat → Nat × Nat
  | [] => (i, 0)
  | g :: gs =>
    let here := leadingZeros (g :: gs)
    let later := longestZeros (i + 1) gs
    -- Of equally long runs the first one counts.
    if later.2 ≤ here then (i, here) else later

/-- An address with its longest run of zeros, if it is longer than one, as `::`. -/
def ipv6Text (gs : List Nat) : List Char :=
  let side (gs : List Nat) : List Char := Text.joinWith [':'] (gs.map Text.hexDigits)
  let (place, size) := longestZeros 0 gs
  if size < 2 then side gs
  else side (gs.take place) ++ ':' :: ':' :: side (gs.drop (place + size))

/-! ## Hosts -/

/-- The address in brackets. -/
def readBrackets (cs : List Char) : Except UrlFault Host :=
  if cs.getLast? = some ']' then
    match readIpv6? cs.dropLast with
    | some gs => .ok (.ipv6 gs)
    | none => .error .ipv6
  else .error .ipv6

/-- **The host a text stands for.** -/
def read (cs : List Char) : Except UrlFault Host :=
  match cs with
  | '[' :: cs => readBrackets cs
  | cs =>
    -- Percent-encoded characters of a name count as what they stand for.
    match (Text.percentDecode cs).toOption.bind Domain.ascii? with
    | none => .error .domainName
    | some [] => .error .emptyHost
    | some name =>
      if endsInNumber name then
        match readIpv4? name with
        | some n => .ok (.ipv4 n)
        | none => .error .ipv4
      else .ok (.domain name)

/-- The characters that no host of another kind holds. -/
def forbiddenOther : List Char := "\x00\t\n\r #/:<>?@[\\]^|".toList

/-- The host of a scheme with hosts of its own. -/
def readOther (cs : List Char) : Except UrlFault Host :=
  match cs with
  | '[' :: cs => readBrackets cs
  | cs =>
    if cs.any forbiddenOther.contains then .error .hostCharacter
    else .ok (.other (Text.percentEncode (fun c => 0x20 ≤ c.toNat && c.toNat < 0x7F) cs))

/-- **A host as it stands in a URL.** -/
def text : Host → List Char
  | .domain name | .other name => name
  | .ipv4 n => ipv4Text n
  | .ipv6 gs => '[' :: ipv6Text gs ++ [']']

end Host

end CatalogSearch
