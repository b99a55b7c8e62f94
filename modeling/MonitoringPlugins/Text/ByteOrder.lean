/-
**The order of texts is the order of their bytes.**

Texts are compared character by character.  Written as bytes they come in the same order: a longer
encoding begins with a greater byte, and encodings of one length are the digits of the character,
the most significant ones first.

Main definitions:

* `MonitoringPlugins.Text.bytes` — the bytes of a text.

Main results:

* `MonitoringPlugins.Text.encodeChar_append_lt` — the encodings of two characters decide the order,
  whatever follows them;
* `MonitoringPlugins.Text.bytes_lt_of_lt` — **a smaller text has the smaller bytes**.
-/

set_option autoImplicit false

namespace MonitoringPlugins.Text

/-- Texts of bytes are compared at the first byte that differs. -/
theorem ofNat_cons_lt_iff {m n : Nat} (hm : m < 256) (hn : n < 256) {x y : List UInt8} :
    UInt8.ofNat m :: x < UInt8.ofNat n :: y ↔ m < n ∨ m = n ∧ x < y := by
  have hinj : UInt8.ofNat m = UInt8.ofNat n ↔ m = n := by
    rw [← UInt8.toNat_inj, UInt8.toNat_ofNat_of_lt' hm, UInt8.toNat_ofNat_of_lt' hn]
  rw [List.cons_lt_cons_iff, UInt8.ofNat_lt_iff_lt hm hn, hinj]

/-- **The four lengths of an encoding**, by the number `v` of the character, which is cut into
digits of six bits. -/
theorem encodeChar_cases (c : Char) :
    let v := c.val.toNat
    (v < 128 ∧ String.utf8EncodeChar c = [.ofNat v]) ∨
    (128 ≤ v ∧ v < 2048 ∧
      String.utf8EncodeChar c = [.ofNat (v / 64 % 32 + 192), .ofNat (v % 64 + 128)]) ∨
    (2048 ≤ v ∧ v < 65536 ∧ String.utf8EncodeChar c =
      [.ofNat (v / 64 / 64 % 16 + 224), .ofNat (v / 64 % 64 + 128), .ofNat (v % 64 + 128)]) ∨
    (65536 ≤ v ∧ v < 1114112 ∧ String.utf8EncodeChar c =
      [.ofNat (v / 64 / 64 / 64 % 8 + 240), .ofNat (v / 64 / 64 % 64 + 128),
        .ofNat (v / 64 % 64 + 128), .ofNat (v % 64 + 128)]) := by
  have hvalid : c.val.toNat < 1114112 := by
    have h := c.valid
    simp only [UInt32.isValidChar, Nat.isValidChar] at h
    omega
  unfold String.utf8EncodeChar
  dsimp only
  split
  · exact .inl ⟨by omega, rfl⟩
  · split
    · exact .inr (.inl ⟨by omega, by omega, rfl⟩)
    · split
      · refine .inr (.inr (.inl ⟨by omega, by omega, ?_⟩))
        rw [Nat.div_div_eq_div_mul]
      · refine .inr (.inr (.inr ⟨by omega, hvalid, ?_⟩))
        simp only [Nat.div_div_eq_div_mul, Nat.reduceMul]

/-- **The encodings of two characters decide the order**, whatever follows them. -/
theorem encodeChar_append_lt {c d : Char} (h : c < d) (x y : List UInt8) :
    String.utf8EncodeChar c ++ x < String.utf8EncodeChar d ++ y := by
  have hlt : c.val.toNat < d.val.toNat := h
  have hc := encodeChar_cases c
  have hd := encodeChar_cases d
  generalize c.val.toNat = m at hlt hc
  generalize d.val.toNat = n at hlt hd
  -- encodings of two lengths differ in the first byte, those of one length in some digit
  rcases hc with ⟨hm, hc⟩ | ⟨hm, hm', hc⟩ | ⟨hm, hm', hc⟩ | ⟨hm, hm', hc⟩ <;>
  rcases hd with ⟨hn, hd⟩ | ⟨hn, hn', hd⟩ | ⟨hn, hn', hd⟩ | ⟨hn, hn', hd⟩ <;>
  · rw [hc, hd]
    simp (disch := omega) only [List.cons_append, List.nil_append, ofNat_cons_lt_iff]
    omega

theorem flatMap_encodeChar_lt {a b : List Char} (h : a < b) :
    a.flatMap String.utf8EncodeChar < b.flatMap String.utf8EncodeChar := by
  induction a generalizing b with
  | nil =>
      cases b with
      | nil => exact absurd h (List.not_lt_nil _)
      | cons d rest =>
          obtain ⟨byte, bytes, hbytes⟩ :=
            List.exists_cons_of_ne_nil (String.utf8EncodeChar_ne_nil (c := d))
          rw [List.flatMap_cons, hbytes]
          exact List.nil_lt_cons _ _
  | cons c rest ih =>
      cases b with
      | nil => exact absurd h (List.not_lt_nil _)
      | cons d rest' =>
          rw [List.flatMap_cons, List.flatMap_cons]
          rcases List.cons_lt_cons_iff.1 h with hcd | ⟨rfl, hrest⟩
          · exact encodeChar_append_lt hcd _ _
          · exact List.append_left_lt (ih hrest)

/-- The bytes of a text in UTF-8. -/
def bytes (text : String) : List UInt8 := text.toUTF8.data.toList

theorem bytes_eq (text : String) : bytes text = text.toList.flatMap String.utf8EncodeChar := by
  rw [bytes, String.toUTF8_eq_toByteArray, ← String.utf8Encode_toList, List.utf8Encode,
    List.toList_data_toByteArray]

/-- **A smaller text has the smaller bytes.** -/
theorem bytes_lt_of_lt {a b : String} (h : a < b) : bytes a < bytes b := by
  rw [bytes_eq, bytes_eq]
  exact flatMap_encodeChar_lt (String.lt_iff.1 h)

end MonitoringPlugins.Text
