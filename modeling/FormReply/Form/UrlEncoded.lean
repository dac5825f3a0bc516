import FormReply.Form.Basic
import FormReply.Text.Utf8

/-!
# URL-encoded forms

A URL-encoded text is a sequence of pairs separated by `&`.  A pair is a name and a value separated
by its first `=`; in both, `+` stands for a space and `%` with two hexadecimal digits for a byte.

* `percentDecode_escape`, `percentDecode_literal`: one step of decoding;
* `fields_append`: a separator between two texts joins their fields.
-/

namespace FormReply.UrlEncoded

/-! ### Percent escapes -/

/-- The value of a hexadecimal digit of either case. -/
def hexValue? (b : UInt8) : Option UInt8 :=
  if 0x30 ≤ b ∧ b ≤ 0x39 then some (b - 0x30)
  else if 0x41 ≤ b ∧ b ≤ 0x46 then some (b - 0x41 + 10)
  else if 0x61 ≤ b ∧ b ≤ 0x66 then some (b - 0x61 + 10)
  else none

/-- The byte that two hexadecimal digits stand for. -/
def hexPair? (high low : UInt8) : Option UInt8 := do
  let h ← hexValue? high
  let l ← hexValue? low
  return h * 16 + l

/-- Puts bytes for their escapes.  A `%` that two hexadecimal digits do not follow is kept. -/
def percentDecode (s : Bytes) : Bytes :=
  go [] s
where
  /-- Decodes `s`, with what has been written so far in `out`, last one first. -/
  go (out : Bytes) : Bytes → Bytes
    | [] => out.reverse
    | 0x25 :: high :: low :: rest =>
      match hexPair? high low with
      | some b => go (b :: out) rest
      | none => go (0x25 :: out) (high :: low :: rest)
    | b :: rest => go (b :: out) rest

theorem percentDecode.go_eq (out s : Bytes) :
    percentDecode.go out s = out.reverse ++ percentDecode.go [] s := by
  induction hn : s.length using Nat.strongRecOn generalizing out s with
  | ind n ih =>
    subst hn
    fun_cases percentDecode.go out s with
    | case1 => simp [percentDecode.go]
    | case2 high low rest b h =>
      rw [percentDecode.go, h]
      simp only
      rw [ih rest.length (by simp; omega) _ _ rfl, ih rest.length (by simp; omega) [b] _ rfl]
      simp
    | case3 high low rest h =>
      rw [percentDecode.go, h]
      simp only
      rw [ih (high :: low :: rest).length (by simp) _ _ rfl,
        ih (high :: low :: rest).length (by simp) [0x25] _ rfl]
      simp
    | case4 b rest hne =>
      rw [percentDecode.go, ih rest.length (by simp) _ _ rfl, ih rest.length (by simp) [b] _ rfl]
      · simp
      · exact hne

@[simp] theorem percentDecode_nil : percentDecode [] = [] := rfl

theorem percentDecode_escape {high low b : UInt8} (h : hexPair? high low = some b) (rest : Bytes) :
    percentDecode (0x25 :: high :: low :: rest) = b :: percentDecode rest := by
  rw [percentDecode, percentDecode.go, h]
  exact percentDecode.go_eq _ _

theorem percentDecode_literal {b : UInt8} (h : b ≠ 0x25) (rest : Bytes) :
    percentDecode (b :: rest) = b :: percentDecode rest := by
  rw [percentDecode, percentDecode.go, percentDecode.go_eq]
  · rfl
  · intro high low t hb; exact absurd hb h

/-! ### Pairs -/

/-- A space for `+`, and every other character itself. -/
def plusToSpace (c : Char) : Char := if c = '+' then ' ' else c

/-- The text that a name or a value stands for. -/
def decodeComponent (text : List Char) : String :=
  String.ofList (Utf8.decodeLossy (percentDecode (Utf8.encode (text.map plusToSpace))))

/-- The name and the value of a pair as they are written.  Without `=` the value is empty. -/
def cutPair (text : List Char) : List Char × List Char :=
  (text.takeWhile (· ≠ '='), (text.dropWhile (· ≠ '=')).drop 1)

/-- The field of one pair.  An empty pair is none, and a pair whose value is written empty is one
only if blank values are kept. -/
def pairField? (keepBlank : Bool) (text : List Char) : Option Field :=
  let (name, value) := cutPair text
  if text.isEmpty || (value.isEmpty && !keepBlank) then none
  else some ⟨decodeComponent name, some (decodeComponent value)⟩

/-- The fields of a text, in order, repeated names included. -/
def fields (keepBlank : Bool) (text : List Char) : List Field :=
  (text.splitOn '&').filterMap (pairField? keepBlank)

/-- The form of a text: the first field of each name. -/
def form (keepBlank : Bool) (text : List Char) : Form := Form.ofList (fields keepBlank text)

@[simp] theorem fields_nil (keepBlank : Bool) : fields keepBlank [] = [] := by
  simp [fields, pairField?, cutPair]

/-- A separator between two texts joins their fields. -/
theorem fields_append (keepBlank : Bool) (a b : List Char) :
    fields keepBlank (a ++ '&' :: b) = fields keepBlank a ++ fields keepBlank b := by
  simp [fields, List.splitOn_append_cons_self]

end FormReply.UrlEncoded
