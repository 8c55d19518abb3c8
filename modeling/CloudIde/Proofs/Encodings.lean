import CloudIde.Http.Form
import CloudIde.Proofs.JsonText
import CloudIde.Proofs.Trimming

/-!
# What is encoded is read back

A percent-encoded text is made of characters of ASCII and says what the text says
(`Percent.decode_encode`, and `Percent.decode_encode_sign` where percent signs are left as they
are). The fields of a form are read back from what is written for them (`Form.fields_encode`).

Reading never makes bytes more: there are as many as before only where nothing is read
(`Percent.length_decode`).
-/

namespace CloudIde

theorem Utf8.decode_ofText (text : String) : decode (Bytes.ofText text) = .ok text := by
  rw [decode, Bytes.text?_ofText]

theorem Utf8.lossy_ofText (text : String) : lossy (Bytes.ofText text) = text := by
  rw [lossy, Bytes.text?_ofText]

/-- Bytes of ASCII are a text as they stand. -/
theorem Utf8.ofText_lossy {bytes : Bytes} (h : ∀ b ∈ bytes, b < 0x80) :
    Bytes.ofText (lossy bytes) = bytes := by
  have hspelled := Bytes.ofText_ascii h
  have htext : Bytes.text? bytes
      = some (String.ofList (bytes.map fun b => Char.ofNat b.toNat)) := by
    rw [← Bytes.text?_ofText, hspelled]
  rw [lossy, htext, hspelled]

namespace Percent

variable {keep : UInt8 → Bool} {bytes : Bytes}

/-! ## Groups -/

theorem hexValue?_upperHex {n : Nat} (h : n < 16) : hexValue? (upperHex n) = some n := by
  have hall : ∀ n : Fin 16, hexValue? (upperHex n.val) = some n.val := by decide
  exact hall ⟨n, h⟩

theorem upperHex_ascii {n : Nat} (h : n < 16) : upperHex n < 0x80 := by
  have hall : ∀ n : Fin 16, upperHex n.val < 0x80 := by decide
  exact hall ⟨n, h⟩

theorem mem_group {a b : UInt8} (h : a ∈ group b) : a = sign ∨ ∃ n < 16, a = upperHex n := by
  have hb := b.toNat_lt
  simp only [group, List.mem_cons, List.not_mem_nil, or_false] at h
  rcases h with h | h | h
  · exact Or.inl h
  · exact Or.inr ⟨b.toNat / 16, by omega, h⟩
  · exact Or.inr ⟨b.toNat % 16, by omega, h⟩

theorem group_ascii {a b : UInt8} (h : a ∈ group b) : a < 0x80 := by
  rcases mem_group h with rfl | ⟨n, hn, rfl⟩
  · decide
  · exact upperHex_ascii hn

/-- The byte that is written by the digits in front, when there are two. -/
def groupValue? : Bytes → Option Nat
  | b :: c :: _ => (hexValue? b).bind fun high => (hexValue? c).map (16 * high + ·)
  | _ => none

theorem groupValue?_cons (b c : UInt8) (rest : Bytes) : groupValue? (b :: c :: rest)
    = (hexValue? b).bind fun high => (hexValue? c).map (16 * high + ·) := rfl

theorem groupValue?_length {value : Nat} (h : groupValue? bytes = some value) :
    2 ≤ bytes.length := by
  match bytes with
  | [] => exact absurd h (by simp [groupValue?])
  | [b] => exact absurd h (by simp [groupValue?])
  | b :: c :: rest => simp

theorem decode_cons {a : UInt8} (h : a ≠ sign) (rest : Bytes) :
    decode (a :: rest) = a :: decode rest := by
  match rest with
  | [] => rfl
  | [b] => rfl
  | b :: c :: rest => rw [decode, if_neg h]

theorem decode_sign (rest : Bytes) :
    decode (sign :: rest) = (groupValue? rest).elim (sign :: decode rest)
      fun value => UInt8.ofNat value :: decode (rest.drop 2) := by
  match rest with
  | [] => rfl
  | [b] => rfl
  | b :: c :: rest =>
    rw [decode, if_pos rfl, groupValue?_cons]
    cases (hexValue? b).bind fun high => (hexValue? c).map (16 * high + ·) with
    | none => rfl
    | some value => rfl

theorem decode_group (b : UInt8) (rest : Bytes) : decode (group b ++ rest) = b :: decode rest := by
  have hb := b.toNat_lt
  have hvalue : groupValue? (upperHex (b.toNat / 16) :: upperHex (b.toNat % 16) :: rest)
      = some b.toNat := by
    rw [groupValue?_cons, hexValue?_upperHex (by omega), hexValue?_upperHex (by omega)]
    exact congrArg some (Nat.div_add_mod b.toNat 16)
  show decode (sign :: upperHex (b.toNat / 16) :: upperHex (b.toNat % 16) :: rest) = _
  rw [decode_sign, hvalue]
  simp

/-! ## Encoded bytes -/

theorem encode_cons (b : UInt8) (rest : Bytes) :
    encode keep (b :: rest) = (if keep b then [b] else group b) ++ encode keep rest :=
  List.flatMap_cons

theorem encode_ascii (hkeep : ∀ b, keep b = true → b < 0x80) :
    ∀ b ∈ encode keep bytes, b < 0x80 := by
  intro b hb
  obtain ⟨a, -, hb⟩ := List.mem_flatMap.1 hb
  by_cases ha : keep a = true
  · rw [if_pos ha] at hb
    exact List.mem_singleton.1 hb ▸ hkeep a ha
  · rw [if_neg ha] at hb
    exact group_ascii hb

/-- **Encoded bytes are read back**, when percent signs are encoded too. -/
theorem decode_encode (hsign : keep sign = false) (bytes : Bytes) :
    decode (encode keep bytes) = bytes := by
  induction bytes with
  | nil => rfl
  | cons b rest ih =>
    rw [encode_cons]
    by_cases hb : keep b = true
    · have hne : b ≠ sign := fun he => by simp [he, hsign] at hb
      rw [if_pos hb, List.singleton_append, decode_cons hne, ih]
    · rw [if_neg hb, decode_group, ih]

/-- The digits in front stay when they are kept. What is encoded does not begin with a digit. -/
theorem groupValue?_encode (hdigits : ∀ b, hexValue? b ≠ none → keep b = true) (bytes : Bytes) :
    groupValue? (encode keep bytes) = groupValue? bytes := by
  have hcoded {b : UInt8} (hb : keep b ≠ true) : hexValue? b = none :=
    Decidable.byContradiction fun hdigit => hb (hdigits b hdigit)
  match bytes with
  | [] => rfl
  | [b] =>
    by_cases hb : keep b = true
    · rw [encode_cons, if_pos hb]
      rfl
    · rw [encode_cons, if_neg hb]
      rfl
  | b :: c :: rest =>
    by_cases hb : keep b = true
    · by_cases hc : keep c = true
      · rw [encode_cons, encode_cons, if_pos hb, if_pos hc]
        rfl
      · rw [encode_cons, encode_cons, if_pos hb, if_neg hc]
        simp [groupValue?, group, hcoded hc, show hexValue? sign = none from rfl]
    · rw [encode_cons, if_neg hb]
      simp [groupValue?, group, hcoded hb, show hexValue? sign = none from rfl]

theorem drop_encode (hdigits : ∀ b, hexValue? b ≠ none → keep b = true)
    (hvalue : groupValue? bytes ≠ none) :
    (encode keep bytes).drop 2 = encode keep (bytes.drop 2) := by
  match bytes with
  | [] => rfl
  | [b] => exact absurd rfl hvalue
  | b :: c :: rest =>
    have hb : hexValue? b ≠ none := fun he => hvalue (by simp [groupValue?, he])
    have hc : hexValue? c ≠ none := fun he => hvalue (by simp [groupValue?, he])
    rw [encode_cons, encode_cons, if_pos (hdigits b hb), if_pos (hdigits c hc)]
    rfl

/-- **Where percent signs are left as they are**, encoded bytes say what the bytes say. -/
theorem decode_encode_sign (hsign : keep sign = true)
    (hdigits : ∀ b, hexValue? b ≠ none → keep b = true) (bytes : Bytes) :
    decode (encode keep bytes) = decode bytes := by
  match bytes with
  | [] => rfl
  | b :: rest =>
    rw [encode_cons]
    by_cases hb : b = sign
    · subst hb
      rw [if_pos hsign, List.singleton_append, decode_sign, decode_sign, groupValue?_encode hdigits]
      cases hvalue : groupValue? rest with
      | none => exact congrArg _ (decode_encode_sign hsign hdigits rest)
      | some value =>
        rw [drop_encode hdigits (by simp [hvalue])]
        exact congrArg _ (decode_encode_sign hsign hdigits (rest.drop 2))
    · rw [decode_cons hb]
      by_cases hkept : keep b = true
      · rw [if_pos hkept, List.singleton_append, decode_cons hb,
          decode_encode_sign hsign hdigits rest]
      · rw [if_neg hkept, decode_group, decode_encode_sign hsign hdigits rest]
termination_by bytes.length

/-- Reading makes nothing longer, and where it leaves the length it has read nothing. -/
theorem length_decode (bytes : Bytes) :
    (decode bytes).length ≤ bytes.length ∧
      ((decode bytes).length = bytes.length → decode bytes = bytes) := by
  match bytes with
  | [] => exact ⟨Nat.le_refl _, fun _ => rfl⟩
  | b :: rest =>
    have ih := length_decode rest
    by_cases hb : b = sign
    · subst hb
      rw [decode_sign]
      cases hvalue : groupValue? rest with
      | none =>
        refine ⟨Nat.succ_le_succ ih.1, fun h => ?_⟩
        exact congrArg _ (ih.2 (Nat.succ.inj h))
      | some value =>
        have hdropped := (length_decode (rest.drop 2)).1
        have hdigits := groupValue?_length hvalue
        rw [List.length_drop] at hdropped
        simp only [Option.elim_some, List.length_cons]
        omega
    · rw [decode_cons hb]
      refine ⟨Nat.succ_le_succ ih.1, fun h => ?_⟩
      exact congrArg _ (ih.2 (Nat.succ.inj h))
termination_by bytes.length

/-- Bytes in which nothing is read end in bytes in which nothing is read. -/
theorem decode_rest {front rest : Bytes} (h : decode (front ++ rest) = front ++ rest) :
    decode rest = rest := by
  induction front with
  | nil => exact h
  | cons b front ih =>
    refine ih ?_
    rw [List.cons_append] at h
    by_cases hb : b = sign
    · subst hb
      rw [decode_sign] at h
      cases hvalue : groupValue? (front ++ rest) with
      | none =>
        rw [hvalue] at h
        exact (List.cons.inj h).2
      | some value =>
        -- a group would have made the bytes fewer
        have hlength := congrArg List.length h
        have hdropped := (length_decode ((front ++ rest).drop 2)).1
        rw [hvalue] at hlength
        rw [List.length_drop] at hdropped
        simp only [Option.elim_some, List.length_cons] at hlength
        have hdigits := groupValue?_length hvalue
        omega
    · rw [decode_cons hb] at h
      exact (List.cons.inj h).2

end Percent

namespace Form

/-- What a reader of a form makes of a byte before it looks for groups. -/
def unplus (b : UInt8) : UInt8 := if b = '+'.toUInt8 then ' '.toUInt8 else b

theorem unplus_upperHex {n : Nat} (h : n < 16) : unplus (upperHex n) = upperHex n := by
  have hall : ∀ n : Fin 16, unplus (upperHex n.val) = upperHex n.val := by decide
  exact hall ⟨n, h⟩

theorem map_unplus_group (b : UInt8) : (Percent.group b).map unplus = Percent.group b := by
  have hb := b.toNat_lt
  have hhigh := unplus_upperHex (show b.toNat / 16 < 16 by omega)
  have hlow := unplus_upperHex (show b.toNat % 16 < 16 by omega)
  simp only [Percent.group, List.map_cons, List.map_nil, hhigh, hlow]
  rfl

/-- The blanks of a text are written as plus signs, and every plus sign as a group. -/
theorem map_unplus (text : String) : (encodePart text).map unplus
    = Percent.encode (fun b => b = ' '.toUInt8 || isKept b) (Bytes.ofText text) := by
  have hkept {b : UInt8} (hb : isKept b = true) : unplus b = b := by
    have hne : b ≠ '+'.toUInt8 := fun he => by rw [he] at hb; exact absurd hb (by decide)
    exact if_neg hne
  unfold encodePart Percent.encode
  rw [List.map_flatMap]
  refine congrArg (List.flatMap · _) (funext fun b => ?_)
  by_cases hblank : b = ' '.toUInt8
  · subst hblank
    rfl
  · by_cases hb : isKept b = true
    · rw [if_neg hblank, if_pos hb, if_pos (by simp [hb])]
      exact congrArg (fun b => [b]) (hkept hb)
    · rw [if_neg hblank, if_neg hb, if_neg (by simp [hblank, hb])]
      exact map_unplus_group b

theorem decodePart_encodePart (text : String) : decodePart (encodePart text) = text := by
  have hread : Percent.decode ((encodePart text).map unplus) = Bytes.ofText text := by
    rw [map_unplus, Percent.decode_encode (by decide)]
  show Utf8.lossy (Percent.decode ((encodePart text).map unplus)) = text
  rw [hread, Utf8.lossy_ofText]

theorem isKept_digit {b : UInt8} (h : ∃ n < 16, b = upperHex n) : isKept b = true := by
  have hall : ∀ n : Fin 16, isKept (upperHex n.val) = true := by decide
  obtain ⟨n, hn, rfl⟩ := h
  exact hall ⟨n, hn⟩

theorem isKept_bytes {b : UInt8} (h : isKept b = true) :
    b < 0x80 ∧ b ≠ '&'.toUInt8 ∧ b ≠ '='.toUInt8 := by
  have hall : ∀ n : Fin 256, isKept (UInt8.ofFin n) = true →
      UInt8.ofFin n < 0x80 ∧ UInt8.ofFin n ≠ '&'.toUInt8 ∧ UInt8.ofFin n ≠ '='.toUInt8 := by
    decide +kernel
  exact hall b.toFin h

/-- What is written for a text is ASCII, and nothing of it ends a name or a value. -/
theorem encodePart_bytes {text : String} {b : UInt8} (h : b ∈ encodePart text) :
    b < 0x80 ∧ b ≠ '&'.toUInt8 ∧ b ≠ '='.toUInt8 := by
  have hwritten : b = '+'.toUInt8 ∨ b = Percent.sign ∨ isKept b = true := by
    obtain ⟨a, -, hb⟩ := List.mem_flatMap.1 h
    by_cases hblank : a = ' '.toUInt8
    · rw [if_pos hblank] at hb
      exact Or.inl (List.mem_singleton.1 hb)
    · rw [if_neg hblank] at hb
      by_cases ha : isKept a = true
      · rw [if_pos ha] at hb
        exact Or.inr (Or.inr (List.mem_singleton.1 hb ▸ ha))
      · rw [if_neg ha] at hb
        exact Or.inr ((Percent.mem_group hb).imp_right isKept_digit)
  rcases hwritten with rfl | rfl | hb
  · decide
  · decide
  · exact isKept_bytes hb

theorem encode_ascii (fs : List (String × String)) : ∀ b ∈ encode fs, b < 0x80 := by
  intro b hb
  rcases mem_intercalate hb with hb | ⟨part, hpart, hb⟩
  · exact List.mem_singleton.1 hb ▸ by decide
  · obtain ⟨field, -, rfl⟩ := List.mem_map.1 hpart
    rcases List.mem_append.1 hb with hb | hb
    · exact (encodePart_bytes hb).1
    · rcases List.mem_cons.1 hb with rfl | hb
      · decide
      · exact (encodePart_bytes hb).1

/-- **Fields are read back from what is written for them.** -/
theorem fields_encode (fs : List (String × String)) : fields (encode fs) = fs := by
  let part (field : String × String) : Bytes :=
    encodePart field.1 ++ '='.toUInt8 :: encodePart field.2
  have hfield (field : String × String) :
      (decodePart (cut '='.toUInt8 (part field)).1,
        decodePart ((cut '='.toUInt8 (part field)).2.getD [])) = field := by
    rw [cut_append fun hmem => (encodePart_bytes hmem).2.2 rfl]
    exact Prod.ext (decodePart_encodePart field.1) (decodePart_encodePart field.2)
  cases fs with
  | nil => rfl
  | cons field rest =>
    have hpieces : pieces '&'.toUInt8 (encode (field :: rest)) = (field :: rest).map part := by
      refine pieces_intercalate (by simp) fun piece hpiece hmem => ?_
      obtain ⟨field, -, rfl⟩ := List.mem_map.1 hpiece
      rcases List.mem_append.1 hmem with hmem | hmem
      · exact (encodePart_bytes hmem).2.1 rfl
      · rcases List.mem_cons.1 hmem with heq | hmem
        · exact absurd heq (by decide)
        · exact (encodePart_bytes hmem).2.1 rfl
    have hfull : ((field :: rest).map part).filter (fun piece => !piece.isEmpty)
        = (field :: rest).map part := by
      refine List.filter_eq_self.2 fun piece hpiece => ?_
      obtain ⟨field, -, rfl⟩ := List.mem_map.1 hpiece
      simp [part]
    unfold fields
    rw [hpieces, hfull, List.map_map]
    exact (List.map_congr_left fun field _ => hfield field).trans (List.map_id _)

end Form

end CloudIde
