import CloudIde.Proofs.Effect
import CloudIde.Proofs.WrittenReads

/-!
# Why a subscription is refused

A request for a subscription can be refused for many reasons. Those that are found in the order, in
the plan and in what is stored are gone through here, step by step, and told apart from one by their
words: none of them says that a service is unknown (`Elsewise`).
-/

namespace CloudIde

namespace Http

open Store Platform

variable {ctx : Context} {s : Store} {caller : Caller}

/-- A text that begins otherwise is another text. -/
theorem append_ne {front rest text : String} (h : front.toList.isPrefixOf text.toList = false) :
    front ++ rest ≠ text := by
  rintro rfl
  have hprefix : front.toList.isPrefixOf (front ++ rest).toList = true := by
    rw [String.toList_append]
    exact List.isPrefixOf_iff_prefix.2 (List.prefix_append _ _)
  rw [h] at hprefix
  exact absurd hprefix (by simp)

/-- A failure that does not say that a service is unknown. -/
def Elsewise (f : Failure) : Prop := f.message ≠ Failure.unknownService.message

instance (f : Failure) : Decidable (Elsewise f) := inferInstanceAs (Decidable (_ ≠ _))

theorem elsewise_of_front {f : Failure} {front rest : String} (hmessage : f.message = front ++ rest)
    (h : front.toList.isPrefixOf Failure.unknownService.message.toList = false) : Elsewise f := by
  unfold Elsewise
  rw [hmessage]
  exact append_ne h

/-- What is said in front can already make the difference. -/
theorem elsewise_of_kind {f : Failure} (h : f.kind = .invalidRequest ∨ f.kind = .database) :
    Elsewise f := by
  have hmessage : f.message = f.kind.preface ++ f.text := rfl
  rcases h with hkind | hkind
  · rw [hkind] at hmessage
    exact elsewise_of_front hmessage (by decide +kernel)
  · rw [hkind] at hmessage
    exact elsewise_of_front hmessage (by decide +kernel)

theorem planNotFound_elsewise (id : String) : Elsewise (.planNotFound id) := by
  have hmessage : (Failure.planNotFound id).message
      = "Plan with id " ++ (id ++ " was not found") := by
    show "" ++ ("Plan with id " ++ id ++ " was not found") = _
    rw [String.empty_append, String.append_assoc]
  exact elsewise_of_front hmessage (by decide +kernel)

theorem accountNotFound_elsewise (id : String) : Elsewise (.accountNotFound id) := by
  have hmessage : (Failure.accountNotFound id).message = "Account '" ++ (id ++ "' not found") := by
    show "" ++ ("Account '" ++ id ++ "' not found") = _
    rw [String.empty_append, String.append_assoc]
  exact elsewise_of_front hmessage (by decide +kernel)

theorem alreadySubscribed_elsewise (account service : String) :
    Elsewise (.alreadySubscribed account service) := by
  have hmessage : (Failure.alreadySubscribed account service).message = "Account '" ++
      (account ++ ("' already has an active subscription to service '" ++ (service ++ "'"))) := by
    show "" ++ ("Account '" ++ account ++ "' already has an active subscription to service '"
      ++ service ++ "'") = _
    simp only [String.empty_append, String.append_assoc]
  exact elsewise_of_front hmessage (by decide +kernel)

theorem optional_fails {α : Type} [Wire α] (body : Bytes) :
    FailsWith Elsewise (Body.optional α body) := by
  unfold Body.optional
  split
  · exact .error (elsewise_of_kind (Or.inl rfl))
  · simp only
    split
    · exact .ok _
    · split
      · exact .ok _
      · exact .error (elsewise_of_kind (Or.inl rfl))

theorem required_fails {α : Type} {Q : Failure → Prop} {part : String} (value : Option α)
    (h : Q (.partRequired part)) : FailsWith Q (Body.required value part) := by
  cases value with
  | some a => exact .ok a
  | none => exact .error h

theorem ofBody_fails (body : Bytes) : FailsWith Elsewise (Order.ofBody body) := by
  refine (optional_fails body).bind fun given _ => ?_
  refine (required_fails given (by decide +kernel)).bind fun new _ => ?_
  refine (required_fails new.account (by decide +kernel)).bind fun _ _ => ?_
  refine (required_fails new.plan (by decide +kernel)).bind fun _ _ => ?_
  refine (required_fails new.usePaymentSystem (by decide +kernel)).bind
    fun _ _ => ?_
  exact .ok _

theorem rolesFor_fails (hs : Written s) (account : String) (needed : List String) :
    FailsWith (· = .accessDenied) (rolesFor s caller account needed) := by
  unfold rolesFor
  split
  · exact .ok _
  · obtain ⟨there, hthere⟩ := hs.accountRoles_ok account caller.user
    rw [hthere, ok_bind]
    split
    · exact .ok _
    · exact .error rfl

theorem draft_fails (order : Order) (plan : Plan) :
    FailsWith (fun f => f = .unknownProperty ∨ f = .trialOutOfRange) (draft ctx order plan) := by
  refine FailsWith.bind ?_ fun properties _ => ?_
  · unfold overridden
    split
    · exact .ok _
    · exact .error (Or.inl rfl)
  · split
    · unfold Subscription.startTrial
      split
      · exact .error (Or.inr rfl)
      · exact .ok _
    · exact .ok _

theorem checkTerms_fails (order : Order) (plan : Plan) :
    FailsWith Elsewise (order.checkTerms plan) := by
  unfold Order.checkTerms
  split
  · exact .error (by decide +kernel)
  · split
    · exact .error (by decide +kernel)
    · split
      · exact .error (by decide +kernel)
      · split
        · exact .error (by decide +kernel)
        · exact .ok _

/-- The plan with an id can be read, or there is none. -/
theorem plan_fails (hs : Written s) (id : String) :
    FailsWith Elsewise (s.plan id) := by
  unfold Store.plan
  rw [Table.naming_made hs.made.plans, ok_bind]
  split
  · next row hrow =>
    obtain ⟨p, rfl⟩ := hs.plan row (Table.find?_mem hrow).1
    rw [PlanRow.readOne_ofPlan]
    exact .ok p
  · exact .error (planNotFound_elsewise id)

theorem insertSubscription_fails (hs : Written s) (v : Subscription) :
    FailsWith Elsewise (s.insertSubscription v) := by
  have htaken : Elsewise (.alreadySubscribed v.account v.service) := alreadySubscribed_elsewise _ _
  unfold Store.insertSubscription
  rw [Table.filling_made hs.made.subscriptions, ok_bind]
  refine FailsWith.bind ?_ fun _ _ => ?_
  · unfold Store.relating
    split
    · exact .error (elsewise_of_kind (Or.inr rfl))
    · exact .ok _
  · simp only
    split
    · exact .error htaken
    · split
      · exact .error htaken
      · refine FailsWith.bind ?_ fun _ _ => .ok _
        unfold Store.referring
        split
        · exact .error (elsewise_of_kind (Or.inr rfl))
        · exact .ok _

theorem addSubscription_fails (hs : Written s) (v : Subscription) :
    FailsWith Elsewise (s.addSubscription v) := by
  have hinsert := insertSubscription_fails hs v
  unfold Store.addSubscription
  rw [Table.naming_made hs.made.accounts, ok_bind]
  split
  · split
    · refine FailsWith.bind ?_ fun found _ => ?_
      · -- an active subscription that is found can be read
        unfold Store.activeSubscription
        rw [Table.naming_made hs.made.subscriptions, ok_bind]
        split
        · next row hrow =>
          obtain ⟨w, rfl, -⟩ := hs.subscription row (List.mem_of_find?_eq_some hrow)
          rw [SubscriptionRow.readOne_ofSubscription]
          exact .ok _
        · exact .ok _
      · cases found with
        | some _ => exact .error (alreadySubscribed_elsewise _ _)
        | none => exact hinsert
    · exact hinsert
  · exact .error (accountNotFound_elsewise _)

end Http

end CloudIde
