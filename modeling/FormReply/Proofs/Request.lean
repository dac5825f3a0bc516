import FormReply.Proofs.Outcomes
import FormReply.Proofs.Text.Utf8
import FormReply.Request

/-!
# What an environment says of a request

A method is taken as it stands, if it is well-formed and not too long.  The other variables are
read lossily.

* `readMethod_eq_ok_iff`: the methods that are taken;
* `exists_method_of_ofEnvironment`: **what a request says** of itself.
-/

namespace FormReply.Request

/-- **The methods that are taken** are the encoded texts that are not too long. -/
theorem readMethod_eq_ok_iff {b : Bytes} {method : String} :
    readMethod b = .ok method ↔ b = Bytes.ofString method ∧ b.length ≤ maxMethodLength := by
  unfold readMethod
  by_cases hb : maxMethodLength < b.length
  · rw [if_pos hb]
    simp only [reduceCtorEq, false_iff]
    omega
  · rw [if_neg hb, Utf8.ofString_eq_encode, ← Utf8.decode?_eq_some_iff_eq_encode]
    have hle : b.length ≤ maxMethodLength := by omega
    cases hd : Utf8.decode? b with
    | none => simp
    | some text =>
      simp only [Except.ok.injEq, Option.some.injEq, hle, and_true]
      rw [← String.ofList_inj, String.ofList_toList]

theorem readMethod_of_tooLong {b : Bytes} (h : maxMethodLength < b.length) :
    readMethod b = .error .tooLong := if_pos h

theorem readMethod_of_notText {b : Bytes} (hle : b.length ≤ maxMethodLength)
    (h : ∀ method : String, b ≠ Bytes.ofString method) : readMethod b = .error .notText := by
  rw [readMethod, if_neg (Nat.not_lt.2 hle)]
  cases hd : Utf8.decode? b with
  | none => rfl
  | some text => exact absurd (Utf8.eq_ofString_of_decode? hd) (h _)

/-! ### Variables -/

theorem ofEnvironment_of_none {env : Environment} (h : env methodVariable = none) :
    ofEnvironment env = .ok
      { contentType := readLossy env "CONTENT_TYPE"
        contentLength := readLength? (readLossy env "CONTENT_LENGTH")
        query := readLossy env "QUERY_STRING" } := by
  rw [ofEnvironment, h]

theorem ofEnvironment_of_some {env : Environment} {b : Bytes} (h : env methodVariable = some b) :
    ofEnvironment env = (readMethod b).map fun method =>
      { method := some method
        contentType := readLossy env "CONTENT_TYPE"
        contentLength := readLength? (readLossy env "CONTENT_LENGTH")
        query := readLossy env "QUERY_STRING" } := by
  rw [ofEnvironment, h]

/-- **A request says what its environment says**: the method that the variable spells, if it is set,
and the other variables as they are read. -/
theorem exists_method_of_ofEnvironment {env : Environment} {request : Request}
    (h : ofEnvironment env = .ok request) :
    ∃ method : Option String, env methodVariable = method.map Bytes.ofString ∧
      request =
        { method
          contentType := readLossy env "CONTENT_TYPE"
          contentLength := readLength? (readLossy env "CONTENT_LENGTH")
          query := readLossy env "QUERY_STRING" } := by
  cases hv : env methodVariable with
  | none =>
    rw [ofEnvironment_of_none hv] at h
    exact ⟨none, rfl, (Except.ok.inj h).symm⟩
  | some b =>
    rw [ofEnvironment_of_some hv] at h
    obtain ⟨method, hb, hr⟩ := map_eq_ok_iff.1 h
    exact ⟨some method, congrArg some (readMethod_eq_ok_iff.1 hb).1, hr.symm⟩

theorem method_of_ofEnvironment {env : Environment} {request : Request} {method : String}
    (h : ofEnvironment env = .ok request) (hm : request.method = some method) :
    env methodVariable = some (Bytes.ofString method) := by
  obtain ⟨method', hv, rfl⟩ := exists_method_of_ofEnvironment h
  rw [hv, show method' = some method from hm]
  rfl

theorem contentLength_of_ofEnvironment {env : Environment} {request : Request}
    (h : ofEnvironment env = .ok request) :
    request.contentLength = readLength? (readLossy env "CONTENT_LENGTH") := by
  obtain ⟨method, -, hr⟩ := exists_method_of_ofEnvironment h
  rw [hr]

theorem readLossy_of_ofString {env : Environment} {name text : String}
    (h : env name = some (Bytes.ofString text)) : readLossy env name = text := by
  rw [readLossy, h, Option.getD_some, Utf8.ofString_eq_encode,
    Utf8.decodeLossy_of_decode? (Utf8.decode?_encode text.toList), String.ofList_toList]

end FormReply.Request
