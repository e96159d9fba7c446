/-!
# Base64 without padding

Three bytes are four characters, each of six bits; one byte left over is two characters and two are
three. A text is read only if it could have been written: what the last character holds beyond the
bytes has to be zero.

`decode?_encode` says that written bytes are read back.
-/

namespace AccessControl.Text.Base64

/-- The character of six bits. -/
def digit (n : Nat) : Char :=
  if n < 26 then Char.ofNat (65 + n)
  else if n < 52 then Char.ofNat (71 + n)
  else if n < 62 then Char.ofNat (n - 4)
  else if n = 62 then '+'
  else '/'

/-- The six bits of a character. -/
def value? (c : Char) : Option Nat :=
  if 'A' ≤ c ∧ c ≤ 'Z' then some (c.toNat - 65)
  else if 'a' ≤ c ∧ c ≤ 'z' then some (c.toNat - 71)
  else if c.isDigit then some (c.toNat + 4)
  else if c = '+' then some 62
  else if c = '/' then some 63
  else none

/-- The text of some bytes. -/
def encode : List UInt8 → List Char
  | a :: b :: c :: bytes =>
    digit (a.toNat / 4) :: digit (a.toNat % 4 * 16 + b.toNat / 16) ::
      digit (b.toNat % 16 * 4 + c.toNat / 64) :: digit (c.toNat % 64) :: encode bytes
  | [a, b] =>
    [digit (a.toNat / 4), digit (a.toNat % 4 * 16 + b.toNat / 16), digit (b.toNat % 16 * 4)]
  | [a] => [digit (a.toNat / 4), digit (a.toNat % 4 * 16)]
  | [] => []

/-- The bytes of a text. -/
def decode? : List Char → Option (List UInt8)
  | p :: q :: r :: s :: text => do
    let (p, q, r, s) := (← value? p, ← value? q, ← value? r, ← value? s)
    let bytes ← decode? text
    return .ofNat (p * 4 + q / 16) :: .ofNat (q % 16 * 16 + r / 4) ::
      .ofNat (r % 4 * 64 + s) :: bytes
  | [p, q, r] => do
    let (p, q, r) := (← value? p, ← value? q, ← value? r)
    if r % 4 = 0 then return [.ofNat (p * 4 + q / 16), .ofNat (q % 16 * 16 + r / 4)] else none
  | [p, q] => do
    let (p, q) := (← value? p, ← value? q)
    if q % 16 = 0 then return [.ofNat (p * 4 + q / 16)] else none
  | [_] => none
  | [] => some []

/-- Bytes are written with digits only. -/
theorem of_mem_encode {P : Char → Prop} (hdigit : ∀ n < 64, P (digit n)) {bytes : List UInt8}
    {c : Char} (h : c ∈ encode bytes) : P c := by
  fun_induction encode bytes with
  | case1 x y z bytes ih =>
    have hx := x.toNat_lt
    have hy := y.toNat_lt
    have hz := z.toNat_lt
    simp only [List.mem_cons] at h
    rcases h with rfl | rfl | rfl | rfl | h
    · exact hdigit _ (by omega)
    · exact hdigit _ (by omega)
    · exact hdigit _ (by omega)
    · exact hdigit _ (by omega)
    · exact ih h
  | case2 x y =>
    have hx := x.toNat_lt
    have hy := y.toNat_lt
    simp only [List.mem_cons, List.not_mem_nil, or_false] at h
    rcases h with rfl | rfl | rfl <;> exact hdigit _ (by omega)
  | case3 x =>
    have hx := x.toNat_lt
    simp only [List.mem_cons, List.not_mem_nil, or_false] at h
    rcases h with rfl | rfl <;> exact hdigit _ (by omega)
  | case4 => cases h

/-- Of eight bits each, six a character. -/
theorem length_encode (bytes : List UInt8) :
    (encode bytes).length = (4 * bytes.length + 2) / 3 := by
  fun_induction encode bytes with
  | case1 x y z bytes ih =>
    simp only [List.length_cons, ih]
    omega
  | case2 => simp only [List.length_cons, List.length_nil]
  | case3 => simp only [List.length_cons, List.length_nil]
  | case4 => rfl

/-- A digit stands for the bits it was written for. -/
theorem value?_digit : ∀ n < 64, value? (digit n) = some n := by
  decide

/-- Written bytes are read back. -/
theorem decode?_encode (bytes : List UInt8) : decode? (encode bytes) = some bytes := by
  fun_induction encode bytes with
  | case1 a b c bytes ih =>
    have ha := a.toNat_lt
    have hb := b.toNat_lt
    have hc := c.toNat_lt
    have h1 : a.toNat / 4 * 4 + (a.toNat % 4 * 16 + b.toNat / 16) / 16 = a.toNat := by omega
    have h2 : (a.toNat % 4 * 16 + b.toNat / 16) % 16 * 16 + (b.toNat % 16 * 4 + c.toNat / 64) / 4 =
        b.toNat := by omega
    have h3 : (b.toNat % 16 * 4 + c.toNat / 64) % 4 * 64 + c.toNat % 64 = c.toNat := by omega
    simp only [decode?, ih, value?_digit (a.toNat / 4) (by omega),
      value?_digit (a.toNat % 4 * 16 + b.toNat / 16) (by omega),
      value?_digit (b.toNat % 16 * 4 + c.toNat / 64) (by omega),
      value?_digit (c.toNat % 64) (by omega), Option.bind_eq_bind, Option.bind_some, pure,
      h1, h2, h3, UInt8.ofNat_toNat]
  | case2 a b =>
    have ha := a.toNat_lt
    have hb := b.toNat_lt
    have h0 : b.toNat % 16 * 4 % 4 = 0 := by omega
    have h1 : a.toNat / 4 * 4 + (a.toNat % 4 * 16 + b.toNat / 16) / 16 = a.toNat := by omega
    have h2 : (a.toNat % 4 * 16 + b.toNat / 16) % 16 * 16 + b.toNat % 16 * 4 / 4 = b.toNat := by
      omega
    simp only [decode?, value?_digit (a.toNat / 4) (by omega),
      value?_digit (a.toNat % 4 * 16 + b.toNat / 16) (by omega),
      value?_digit (b.toNat % 16 * 4) (by omega), Option.bind_eq_bind, Option.bind_some, pure,
      h0, h1, h2, if_true, UInt8.ofNat_toNat]
  | case3 a =>
    have ha := a.toNat_lt
    have h0 : a.toNat % 4 * 16 % 16 = 0 := by omega
    have h1 : a.toNat / 4 * 4 + a.toNat % 4 * 16 / 16 = a.toNat := by omega
    simp only [decode?, value?_digit (a.toNat / 4) (by omega),
      value?_digit (a.toNat % 4 * 16) (by omega), Option.bind_eq_bind, Option.bind_some, pure,
      h0, h1, if_true, UInt8.ofNat_toNat]
  | case4 => rfl

end AccessControl.Text.Base64
