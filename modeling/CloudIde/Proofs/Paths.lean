import CloudIde.Http.Router
import CloudIde.Proofs.JsonText
import CloudIde.Proofs.Trimming

/-!
# Paths to things with generated ids

The id of a new thing is made of letters and digits. So it can stand in a path as it is: no
character of it ends a segment or begins a group that stands for a byte. `path_tame` says that the
path to a subscription leads back to it, `commandPath_tame` says it of a command.
-/

namespace CloudIde

/-- Bytes without a percent sign write themselves. -/
theorem Percent.decode_plain {bytes : Bytes} (h : sign ∉ bytes) : decode bytes = bytes := by
  have hfirst {a : UInt8} {rest : Bytes} (h : sign ∉ a :: rest) : a ≠ sign :=
    fun he => h (he ▸ List.mem_cons_self)
  induction bytes using decode.induct with
  | case1 | case2 | case3 => rfl
  | case4 a b c rest value v hv ih =>
    rw [if_neg (hfirst h)] at hv
    exact absurd hv (by simp)
  | case5 a b c rest value hv ih =>
    rw [decode, if_neg (hfirst h), ih fun hlater => h (List.mem_cons_of_mem a hlater)]

/-- A character that can stand in a path as it is. -/
def isTame (c : Char) : Bool := c ≠ '/' && Percent.sign ∉ String.utf8EncodeChar c

theorem tame_ofDigits {kind : String} (h : kind.toList.all isTame = true) (digits : HexDigits) :
    (Identifier.ofDigits kind Identifier.size digits).toList.all isTame = true := by
  have hdigit : ∀ d : Fin 16, isTame (Nat.digitChar d.val) = true := by decide
  unfold Identifier.ofDigits
  rw [String.toList_append, List.all_append, h, String.toList_ofList, List.all_map]
  exact List.all_eq_true.2 fun d _ => hdigit d

namespace Http

/-- A tame text is meant as it stands in a path. -/
theorem parameter_tame {id : String} (h : id.toList.all isTame = true) (name : String) :
    Request.parameter name id = .ok id := by
  have hsign : Percent.sign ∉ Bytes.ofText id := by
    rw [Bytes.ofText_eq, List.mem_flatMap]
    rintro ⟨c, hc, hsign⟩
    have htame := List.all_eq_true.1 h c hc
    simp [isTame, hsign] at htame
  unfold Request.parameter
  rw [Percent.decode_plain hsign, Bytes.text?_ofText]

theorem slash_not_mem {id : String} (h : id.toList.all isTame = true) : '/' ∉ id.toList := by
  intro hc
  have htame := List.all_eq_true.1 h '/' hc
  simp [isTame] at htame

theorem named_full {id : String} (hid : id.toList ≠ []) (kind : String → Resource) :
    Resource.named kind id = some (kind id) := by
  have hfull : id.isEmpty = false := by
    rw [← Bool.not_eq_true, String.isEmpty_iff]
    exact fun he => hid (by rw [he]; rfl)
  rw [Resource.named, hfull]
  rfl

theorem path_tame {id : String} (h : id.toList.all isTame = true) (hid : id.toList ≠ []) :
    Resource.ofPath? ("/api/account/subscriptions/" ++ id) = some (.subscription id) := by
  have hlist : ("/api/account/subscriptions/" ++ id).toList = [] ++ '/' :: ("api".toList ++ '/' ::
      ("account".toList ++ '/' :: ("subscriptions".toList ++ '/' :: id.toList))) := by
    rw [String.toList_append]
    rfl
  have hpieces : (pieces '/' ("/api/account/subscriptions/" ++ id).toList).map String.ofList
      = ["", "api", "account", "subscriptions", id] := by
    rw [hlist, pieces_append (by decide), pieces_append (by decide), pieces_append (by decide),
      pieces_append (by decide), pieces_last (slash_not_mem h)]
    simp
  unfold Resource.ofPath?
  rw [hpieces]
  exact named_full hid .subscription

/-- The path to a command leads back to it. -/
theorem commandPath_tame {id : String} (h : id.toList.all isTame = true) (hid : id.toList ≠ []) :
    Resource.ofPath? ("/api/command/" ++ id) = some (.command id) := by
  have hlist : ("/api/command/" ++ id).toList = [] ++ '/' :: ("api".toList ++ '/' ::
      ("command".toList ++ '/' :: id.toList)) := by
    rw [String.toList_append]
    rfl
  have hpieces : (pieces '/' ("/api/command/" ++ id).toList).map String.ofList
      = ["", "api", "command", id] := by
    rw [hlist, pieces_append (by decide), pieces_append (by decide), pieces_append (by decide),
      pieces_last (slash_not_mem h)]
    simp
  unfold Resource.ofPath?
  rw [hpieces]
  exact named_full hid .command

end Http

end CloudIde
