import Preflight.Curve.Group
import Preflight.Hash.Keccak
import Preflight.Text.Utf8

/-!
Transcripts of a protocol: labelled messages go in, and labelled challenges, which depend on
everything before them, come out. A transcript is a sponge over Keccak-f[1600] with a rate of one
hundred and sixty-six bytes.
-/

namespace Preflight.Key

/-! ## 1. Sponges -/

/-- A sponge and where it stands. -/
structure Sponge where
  state : Array UInt8
  position : Nat
  -- one more than the position at which the operation began
  begun : Nat

namespace Sponge

def rate : Nat := 166

def xorAt (state : Array UInt8) (i : Nat) (b : UInt8) : Array UInt8 :=
  state.setIfInBounds i (state.getD i 0 ^^^ b)

def turn (s : Sponge) : Sponge :=
  let state := xorAt s.state s.position (UInt8.ofNat s.begun)
  let state := xorAt state (s.position + 1) 0x04
  let state := xorAt state (rate + 1) 0x80
  ⟨(Hash.Keccak.permute state.toList).toArray, 0, 0⟩

/-- Goes to the next byte, and to the next block at the end of this one. -/
def step (s : Sponge) (state : Array UInt8) : Sponge :=
  let s := { s with state, position := s.position + 1 }
  if s.position = rate then s.turn else s

def absorb (s : Sponge) (bs : List UInt8) : Sponge :=
  bs.foldl (fun s b => s.step (xorAt s.state s.position b)) s

-- takes bytes out, and puts zeros in their place
def squeeze (s : Sponge) : Nat → List UInt8
  | 0 => []
  | count + 1 =>
    let b := s.state.getD s.position 0
    b :: squeeze (s.step (s.state.setIfInBounds s.position 0)) count

/-- Begins an operation with its flags. One that takes bytes out begins on a fresh block. -/
def start (s : Sponge) (flags : UInt8) (fresh : Bool) : Sponge :=
  let before := UInt8.ofNat s.begun
  let s := { s with begun := s.position + 1 }
  let s := s.absorb [before, flags]
  if fresh && s.position != 0 then s.turn else s

def label (s : Sponge) (bs : List UInt8) : Sponge := (s.start 0x12 false).absorb bs

def data (s : Sponge) (bs : List UInt8) : Sponge := (s.start 0x02 false).absorb bs

def ofProtocol (name : List UInt8) : Sponge :=
  let front := [1, 168, 1, 0, 1, 96] ++ Text.Utf8.bytes "STROBEv1.0.2"
  let state := Hash.Keccak.permute (front ++ List.replicate (200 - front.length) 0)
  label ⟨state.toArray, 0, 0⟩ name

end Sponge

/-! ## 2. Transcripts -/

/-- A transcript so far. -/
structure Transcript where
  sponge : Sponge

namespace Transcript

def lengthOf (count : Nat) : List UInt8 := Curve.Point.littleEndian 4 count

def append (t : Transcript) (label : String) (message : List UInt8) : Transcript :=
  let s := t.sponge.label (Text.Utf8.bytes label)
  let s := s.absorb (lengthOf message.length)
  ⟨s.data message⟩

def challenge (t : Transcript) (label : String) (count : Nat) : List UInt8 :=
  let s := t.sponge.label (Text.Utf8.bytes label)
  let s := s.absorb (lengthOf count)
  (s.start 0x07 true).squeeze count

def fresh (label : String) : Transcript :=
  append ⟨.ofProtocol (Text.Utf8.bytes "Merlin v1.0")⟩ "dom-sep" (Text.Utf8.bytes label)

end Transcript

end Preflight.Key
