/-!
Durations in whole nanoseconds, from zero to the largest that a count of seconds below `2 ^ 64` and
a count of nanoseconds below one second can give, and the text of a length of time.
-/

namespace Preflight

/-! ## 1. Lengths of time -/

def nanosPerSecond : Nat := 1000000000

def nanosPerMilli : Nat := 1000000

def maxNanos : Nat := (Nat.pow 2 64 - 1) * nanosPerSecond + 999999999

/-- A length of time within the representable range. -/
@[ext] structure Duration where
  nanos : Nat
  nanos_le : nanos ≤ maxNanos
  deriving DecidableEq, Repr

namespace Duration

instance : Inhabited Duration := ⟨⟨0, Nat.zero_le _⟩⟩

/-- The nearest duration to a number of nanoseconds: the number itself, or the largest duration. -/
def saturate (n : Nat) : Duration :=
  ⟨min n maxNanos, Nat.min_le_right _ _⟩

/-- A number of milliseconds. Every count below `2 ^ 64` is a duration, so nothing is cut. -/
def ofMillis (ms : UInt64) : Duration :=
  ⟨ms.toNat * nanosPerMilli, by
    have hle : ms.toNat ≤ Nat.pow 2 64 - 1 := Nat.le_sub_one_of_lt ms.toNat_lt
    calc ms.toNat * nanosPerMilli
        ≤ (Nat.pow 2 64 - 1) * nanosPerSecond := Nat.mul_le_mul hle (by decide)
      _ ≤ maxNanos := Nat.le_add_right _ _⟩

/-- Multiplies a duration by a whole number, stopping at the largest duration. -/
def times (d : Duration) (n : Nat) : Duration :=
  saturate (d.nanos * n)

instance : Min Duration := ⟨fun a b => if a.nanos ≤ b.nanos then a else b⟩

instance : Max Duration := ⟨fun a b => if a.nanos ≤ b.nanos then b else a⟩

@[simp] theorem nanos_saturate (n : Nat) : (saturate n).nanos = min n maxNanos := rfl

@[simp] theorem nanos_ofMillis (ms : UInt64) : (ofMillis ms).nanos = ms.toNat * nanosPerMilli := rfl

@[simp] theorem nanos_times (d : Duration) (n : Nat) :
    (d.times n).nanos = min (d.nanos * n) maxNanos := rfl

@[simp] theorem nanos_min (a b : Duration) : (min a b).nanos = min a.nanos b.nanos := by
  change (if a.nanos ≤ b.nanos then a else b).nanos = _
  split <;> omega

@[simp] theorem nanos_max (a b : Duration) : (max a b).nanos = max a.nanos b.nanos := by
  change (if a.nanos ≤ b.nanos then b else a).nanos = _
  split <;> omega

end Duration

/-! ## 2. Text of a length of time -/

namespace Nanos

/-- The digits of `n` in exactly `width` places, where `n` has no more than that. -/
def padded (width n : Nat) : List Char :=
  let ds := Nat.toDigits 10 n
  List.replicate (width - ds.length) '0' ++ ds

/-- A whole part and a fraction of `width` places, without the zeros at its end. -/
def decimal (whole fraction width : Nat) : String :=
  let ds := ((padded width fraction).reverse.dropWhile (· == '0')).reverse
  if fraction = 0 then s!"{whole}" else s!"{whole}.{String.ofList ds}"

/-- The text of a number of nanoseconds in the largest unit that leaves a whole part: seconds,
milliseconds, microseconds or nanoseconds. -/
def text (n : Nat) : String :=
  if nanosPerSecond ≤ n then decimal (n / nanosPerSecond) (n % nanosPerSecond) 9 ++ "s"
  else if nanosPerMilli ≤ n then decimal (n / nanosPerMilli) (n % nanosPerMilli) 6 ++ "ms"
  else if 1000 ≤ n then decimal (n / 1000) (n % 1000) 3 ++ "µs"
  else s!"{n}ns"

end Nanos

end Preflight
