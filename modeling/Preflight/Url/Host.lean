import Preflight.Text.Hex
import Preflight.Text.Split
import Preflight.Url.Fault

/-!
Hosts of URLs: domains, addresses of four bytes, and addresses of eight pieces of sixteen bits.
-/

namespace Preflight.Url

inductive Host where
  | domain (name : List Char)
  | ipv4 (address : Nat)
  | ipv6 (pieces : List Nat)
  deriving DecidableEq, Repr

/-! ## 1. Percent encoding -/

def upperDigit (n : Nat) : Char :=
  if n < 10 then Char.ofNat (0x30 + n) else Char.ofNat (0x41 + (n - 10))

/-- Writes the bytes of each character outside `keep` as a percent sign and two digits. -/
def percentEncode (keep : Char → Bool) (cs : List Char) : List Char :=
  cs.flatMap fun c =>
    if keep c then [c]
    else (Text.Utf8.encode [c]).flatMap fun b =>
      ['%', upperDigit (b.toNat / 16), upperDigit (b.toNat % 16)]

/-- Reads each percent sign with two digits as a byte, and every other character as its bytes. -/
def percentDecode : List Char → List UInt8
  | '%' :: a :: b :: rest =>
    match Text.Hex.value? a, Text.Hex.value? b with
    | some x, some y => UInt8.ofNat (x * 16 + y) :: percentDecode rest
    | _, _ => Text.Utf8.encode ['%'] ++ percentDecode (a :: b :: rest)
  | c :: rest => Text.Utf8.encode [c] ++ percentDecode rest
  | [] => []

/-! ## 2. Addresses of four bytes -/

/-- The number that a part of an address writes: hexadecimal behind `0x`, octal behind a zero, and
decimal otherwise. -/
def addressNumber? (cs : List Char) : Option Nat :=
  let read (radix : Nat) (digits : List Char) : Option Nat :=
    digits.foldl (fun n c => do
      let n ← n
      let d ← Text.Hex.value? c
      if d < radix then some (n * radix + d) else none) (some 0)
  match cs with
  | [] => none
  | '0' :: 'x' :: digits => read 16 digits
  | '0' :: 'X' :: digits => read 16 digits
  | '0' :: d :: digits => read 8 (d :: digits)
  | digits => read 10 digits

-- the parts of a domain, without an empty one at its end
def domainParts (name : List Char) : List (List Char) :=
  let parts := Text.splitAt '.' name
  if parts.getLast? = some [] && 1 < parts.length then parts.dropLast else parts

/-- Whether a domain has to be an address: its last part is a number. -/
def endsInNumber (name : List Char) : Bool :=
  match (domainParts name).getLast? with
  | none => false
  | some last =>
    (!last.isEmpty && last.all Char.isDigit)
      || ((last.take 2 = ['0', 'x'] || last.take 2 = ['0', 'X']) && (addressNumber? last).isSome)

/-- The address that a domain writes in at most four parts, of which the last fills what the others
leave. -/
def readIpv4 (name : List Char) : Except Fault Nat :=
  let parts := domainParts name
  match parts.mapM addressNumber?, parts.length with
  | some numbers, count =>
    let last := numbers.getLastD 0
    let others := numbers.dropLast
    if 4 < count || others.any (255 < ·) || Nat.pow 256 (5 - count) ≤ last then .error .badIpv4
    else
      .ok (others.zipIdx.foldl (fun address (n, i) => address + n * Nat.pow 256 (3 - i)) last)
  | none, _ => .error .badIpv4

def ipv4Text (address : Nat) : List Char :=
  Text.joinBy '.' ((List.range 4).map fun i =>
    Nat.toDigits 10 (address / Nat.pow 256 (3 - i) % 256))

/-! ## 3. Addresses of eight pieces -/

-- the piece that at most four hexadecimal digits write
def piece? (cs : List Char) : Option Nat :=
  if cs.isEmpty || 4 < cs.length then none
  else cs.foldl (fun n c => do return (← n) * 16 + (← Text.Hex.value? c)) (some 0)

/-- The two pieces of an address of four bytes in decimal parts without leading zeros. -/
def embedded? (cs : List Char) : Option (List Nat) := do
  let parts := Text.splitAt '.' cs
  let numbers ← parts.mapM fun p =>
    if p.isEmpty || 3 < p.length || !p.all Char.isDigit || (p.head? = some '0' && p.length ≠ 1)
    then none
    else addressNumber? p
  if numbers.length = 4 && numbers.all (· ≤ 255) then
    match numbers with
    | [a, b, c, d] => return [a * 256 + b, c * 256 + d]
    | _ => none
  else none

/-- The pieces between colons; the last may be an embedded address of four bytes. -/
def pieces? (cs : List Char) : Option (List Nat) :=
  if cs.isEmpty then some []
  else
    let parts := Text.splitAt ':' cs
    let last := parts.getLastD []
    if last.contains '.' then do
      let front ← parts.dropLast.mapM piece?
      return front ++ (← embedded? last)
    else parts.mapM piece?

-- what is before and behind the first double colon
def splitGap? : List Char → Option (List Char × List Char)
  | ':' :: ':' :: rest => some ([], rest)
  | c :: rest => (splitGap? rest).map fun (before, behind) => (c :: before, behind)
  | [] => none

/-- Reads eight pieces, of which a double colon leaves out one or more zeros. -/
def readIpv6 (cs : List Char) : Except Fault (List Nat) :=
  let result := match splitGap? cs with
    | none => (pieces? cs).filter (·.length = 8)
    | some (before, behind) => do
      let front ← if before.contains '.' then none else pieces? before
      let back ← pieces? behind
      let missing := 8 - (front.length + back.length)
      if front.length + back.length < 8 then
        some (front ++ List.replicate missing 0 ++ back)
      else none
  match result with
  | some pieces => .ok pieces
  | none => .error .badIpv6

def zeroRun (pieces : List Nat) : Nat := (pieces.takeWhile (· == 0)).length

/-- Writes eight pieces, with a double colon for the first of their longest runs of two or more
zeros. -/
def ipv6Text (pieces : List Nat) : List Char :=
  let runs := (List.range pieces.length).map fun i => zeroRun (pieces.drop i)
  let longest := runs.foldl max 0
  let hex (ps : List Nat) := Text.joinBy ':' (ps.map (Nat.toDigits 16))
  if longest < 2 then hex pieces
  else
    let i := (runs.findIdx? (· == longest)).getD 0
    hex (pieces.take i) ++ [':', ':'] ++ hex (pieces.drop (i + longest))

/-! ## 4. Domains beyond ASCII -/

/-- How a domain is written in ASCII, and which domains cannot be. That takes tables of all
characters, which are not part of the library. -/
class Domains where
  toAscii? : List Char → Option (List Char)

/-- Domains that are in ASCII as they are, and no others. -/
@[reducible] def Domains.plain : Domains where
  toAscii? name := if name.all (·.toNat < 0x80) then some name else none

def codeMark : List Char := "xn--".toList

/-- Whether the tables decide about a domain: it is not ASCII, or a part of it says that it encodes
something that is not. -/
def needsTables (name : List Char) : Bool :=
  name.any (0x80 ≤ ·.toNat) || (Text.splitAt '.' name).any codeMark.isPrefixOf

-- the form of a domain in lower-case ASCII
def asciiName? [Domains] (name : List Char) : Option (List Char) :=
  let name := name.map Char.toLower
  if needsTables name then Domains.toAscii? name else some name

/-! ## 5. Hosts -/

namespace Host

def isForbidden (c : Char) : Bool :=
  c.toNat ≤ 0x20 || 0x7F ≤ c.toNat || "#/:<>?@[\\]^`\x7b|\x7d%".toList.contains c

/-- Reads the host of a URL for the web: an address, or a domain in its ASCII form. -/
def read [Domains] (cs : List Char) : Except Fault Host :=
  match cs with
  | [] => .error .emptyHost
  | '[' :: rest =>
    if rest.getLast? = some ']' then Host.ipv6 <$> readIpv6 rest.dropLast else .error .badIpv6
  | _ =>
    match Text.Utf8.decode (percentDecode cs) with
    | .error _ => .error .badDomain
    | .ok name =>
      match asciiName? name with
      | none => .error .badDomain
      | some name =>
        if name.isEmpty || name.any isForbidden then .error .badDomain
        else if endsInNumber name then Host.ipv4 <$> readIpv4 name
        else .ok (.domain name)

def isForbiddenElsewhere (c : Char) : Bool :=
  "\x00\t\n\r #/:<>?@[\\]^|".toList.contains c

-- reads the host of any other URL, which is kept as it is
def readOther (cs : List Char) : Except Fault Host :=
  match cs with
  | '[' :: rest =>
    if rest.getLast? = some ']' then Host.ipv6 <$> readIpv6 rest.dropLast else .error .badIpv6
  | _ =>
    if cs.any isForbiddenElsewhere then .error .badHostChar
    else .ok (.domain (percentEncode (fun c => 0x20 ≤ c.toNat && c.toNat ≤ 0x7E) cs))

def text : Host → List Char
  | domain name => name
  | ipv4 address => ipv4Text address
  | ipv6 pieces => '[' :: ipv6Text pieces ++ [']']

def isLocal : Host → Bool
  | domain name => name == "localhost".toList
  | ipv4 address => address / Nat.pow 256 3 == 127
  | ipv6 pieces => pieces == [0, 0, 0, 0, 0, 0, 0, 1]

end Host

end Preflight.Url
