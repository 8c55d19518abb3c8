import CloudIde.Proofs.JsonFaithful
import CloudIde.Proofs.MachineAddresses

/-!
# What the answers of the machine service are reported as

A call to the machine service is run by sending one request and looking at the answer.
`answers_reported` says which request that is, that no other is sent, and that the answer is
reported for what it is: a status that is no success with the text as it came, and otherwise what
the text says, when the call asks for something, or that the text does not say it. How many slashes
the base ends in makes no difference, and neither does how hosts are read.

Texts are read as JSON. What is written for a value gives the value, and so does an object with its
fields in another order or without those that have a default (`Tells.gives`).
-/

namespace CloudIde.MachineCall

variable {base text : String} {hosts : String → Option String} {call : MachineCall}
  {v : MachineResult}

/-- The statuses of success. -/
def IsSuccess (status : Nat) : Prop := 200 ≤ status ∧ status ≤ 299

/-- A text says a value that a call asks for. A call that only ends or binds something asks for
nothing, whatever the text. -/
def Gives : MachineCall → String → MachineResult → Prop
  | create .., text, v | restore .., text, v =>
    ∃ m, Wire.parseText MachineDescriptor text = .ok m ∧ v = .machine m
  | list .., text, v =>
    ∃ ms, Wire.parseText (List MachineDescriptor) text = .ok ms ∧ v = .machines ms
  | execute .., text, v => ∃ p, Wire.parseText ProcessDescriptor text = .ok p ∧ v = .process p
  | destroy .., _, v | bind .., _, v | unbind .., _, v => v = .done

/-- A text is written for a value that a call asks for: as the JSON form of the value, or as an
object with the same fields in another order, where those may be left out that are absent by
default. -/
def Tells : MachineCall → String → MachineResult → Prop
  | create .., text, v | restore .., text, v =>
    ∃ m entries, Wire.Says m entries ∧ text = (Json.object entries).render ∧ v = .machine m
  | list .., text, v => ∃ ms, text = (Wire.toJson ms).render ∧ v = .machines ms
  | execute .., text, v =>
    ∃ p entries, Wire.Says p entries ∧ text = (Json.object entries).render ∧ v = .process p
  | destroy .., _, v | bind .., _, v | unbind .., _, v => v = .done

/-- An answer with a status and a text is reported for what it is. -/
structure Reports (call : MachineCall) (status : Nat) (text : String)
    (result : Except MachineFault MachineResult) : Prop where
  refused : result = .error (.status status text) ↔ ¬ IsSuccess status
  /-- No other status and no other text are reported. -/
  only : ∀ other body, result = .error (.status other body) → other = status ∧ body = text
  given : ∀ v, result = .ok v ↔ IsSuccess status ∧ call.Gives text v
  unreadable : (∃ problem, result = .error (.unreadable problem text)) ↔
    IsSuccess status ∧ ∀ v, ¬ call.Gives text v
  /-- What is written for a value gives the value. -/
  told : IsSuccess status → ∀ v, call.Tells text v → result = .ok v

/-! ## Texts -/

/-- What is made of a text that is to be a value of a type. -/
def readAs (α : Type) [Wire α] (wrap : α → MachineResult) (text : String) :
    Except MachineFault MachineResult :=
  match Wire.parseText α text with
  | .ok value => .ok (wrap value)
  | .error problem => .error (.unreadable problem text)

theorem readAs_cases {α : Type} [Wire α] (wrap : α → MachineResult) (text : String) :
    (∃ a, Wire.parseText α text = .ok a ∧ readAs α wrap text = .ok (wrap a)) ∨
      (∀ a, Wire.parseText α text ≠ .ok a) ∧
        ∃ problem, readAs α wrap text = .error (.unreadable problem text) := by
  unfold readAs
  cases Wire.parseText α text with
  | ok a => exact Or.inl ⟨a, rfl, rfl⟩
  | error problem => exact Or.inr ⟨nofun, problem, rfl⟩

/-- What is read is what the text gives. When it gives nothing, it is reported as it came. -/
theorem read_cases (call : MachineCall) (text : String) :
    (∃ v, call.read text = .ok v ∧ ∀ w, call.Gives text w ↔ w = v) ∨
      (∃ problem, call.read text = .error (.unreadable problem text)) ∧
        ∀ v, ¬ call.Gives text v := by
  cases call with
  | create | restore =>
    rcases readAs_cases MachineResult.machine text with ⟨m, hm, hread⟩ | ⟨hnone, hread⟩
    · exact Or.inl ⟨_, hread, fun w => by simp [Gives, hm]⟩
    · exact Or.inr ⟨hread, fun v ⟨m, hm, _⟩ => hnone m hm⟩
  | list =>
    rcases readAs_cases MachineResult.machines text with ⟨ms, hms, hread⟩ | ⟨hnone, hread⟩
    · exact Or.inl ⟨_, hread, fun w => by simp [Gives, hms]⟩
    · exact Or.inr ⟨hread, fun v ⟨ms, hms, _⟩ => hnone ms hms⟩
  | execute =>
    rcases readAs_cases MachineResult.process text with ⟨p, hp, hread⟩ | ⟨hnone, hread⟩
    · exact Or.inl ⟨_, hread, fun w => by simp [Gives, hp]⟩
    · exact Or.inr ⟨hread, fun v ⟨p, hp, _⟩ => hnone p hp⟩
  | destroy | bind | unbind => exact Or.inl ⟨.done, rfl, fun w => Iff.rfl⟩

theorem read_unwanted (h : call.wantsText = false) (text : String) :
    call.read text = .ok .done := by
  cases call <;> first | rfl | exact absurd h (by simp [wantsText])

/-- What is written for a value says it. -/
theorem Tells.gives (h : call.Tells text v) : call.Gives text v := by
  cases call with
  | create | restore =>
    obtain ⟨m, entries, hsaid, rfl, rfl⟩ := h
    have hsound : (Wire.shape MachineDescriptor).SoundRecord :=
      Json.Fields.sound_of_faithful _ (by decide)
    exact ⟨m, Wire.parseText_object hsound hsaid, rfl⟩
  | list =>
    obtain ⟨ms, rfl, rfl⟩ := h
    have hsound : (Wire.shape (List MachineDescriptor)).Sound :=
      Json.Shape.sound_of_faithful _ (by decide)
    exact ⟨ms, Wire.parseText_toJson hsound ms, rfl⟩
  | execute =>
    obtain ⟨p, entries, hsaid, rfl, rfl⟩ := h
    have hsound : (Wire.shape ProcessDescriptor).SoundRecord :=
      Json.Fields.sound_of_faithful _ (by decide)
    exact ⟨p, Wire.parseText_object hsound hsaid, rfl⟩
  | destroy | bind | unbind => exact h

/-- What is made of an answer that arrives with its text. -/
theorem result_answered {status : Nat} {contentType : Option Bytes} {body : Bytes}
    {complete : Bool} (hreadable : isReadable status contentType = true)
    (htext : textOf status contentType body complete = some text) :
    call.result (.answered status contentType body complete)
      = if 200 ≤ status ∧ status < 300 then call.read text else .error (.status status text) := by
  simp only [result, htext, hreadable]
  cases hwants : call.wantsText with
  | true => rfl
  | false => simp [read_unwanted hwants]

theorem reports_result {status : Nat} {contentType : Option Bytes} {body : Bytes}
    {complete : Bool} (hreadable : isReadable status contentType = true)
    (htext : textOf status contentType body complete = some text) :
    call.Reports status text (call.result (.answered status contentType body complete)) := by
  rw [result_answered hreadable htext]
  by_cases hsuccess : IsSuccess status
  · rw [if_pos ⟨hsuccess.1, Nat.lt_succ_of_le hsuccess.2⟩]
    rcases read_cases call text with ⟨v, hread, hgives⟩ | ⟨⟨problem, hread⟩, hnone⟩
    · rw [hread]
      refine ⟨by simp [hsuccess], nofun, fun w => ?_, by simp [hsuccess, hgives],
        fun _ w htold => ?_⟩
      · simp [hsuccess, hgives, eq_comm]
      · rw [(hgives w).1 htold.gives]
    · rw [hread]
      refine ⟨by simp [hsuccess], nofun, fun w => ?_, by simp [hsuccess, hnone],
        fun _ w htold => ?_⟩
      · simp [hsuccess, hnone]
      · exact absurd htold.gives (hnone w)
  · rw [if_neg fun h => hsuccess ⟨h.1, Nat.le_of_lt_succ h.2⟩]
    refine ⟨by simp [hsuccess], ?_, fun w => ?_, by simp [hsuccess], fun h => absurd h hsuccess⟩
    · rintro other body ⟨⟩
      exact ⟨rfl, rfl⟩
    · simp [hsuccess]

/-! ## Requests -/

theorem withoutEndSlashes_append {slashes : List Char} (h : ∀ c ∈ slashes, c = '/')
    (base : String) :
    withoutEndSlashes (base ++ String.ofList slashes) = withoutEndSlashes base := by
  unfold withoutEndSlashes trimEndChars
  rw [String.toList_append, String.toList_ofList, List.reverse_append,
    List.dropWhile_append_of_pos fun c hc => by simp [h c (List.mem_reverse.1 hc)]]

theorem request_slashes {slashes : List Char} (h : ∀ c ∈ slashes, c = '/') (call : MachineCall)
    (base : String) :
    call.request? (base ++ String.ofList slashes) hosts = call.request? base hosts := by
  unfold request? address
  rw [withoutEndSlashes_append h]

/-- The request for a call to the service at a base: the URL is what is read of the base with the
path of the call behind it, with the fields of the call. -/
structure Asks (call : MachineCall) (base : String) (hosts : String → Option String)
    (r : MachineRequest) : Prop where
  method : r.method = call.method
  body : r.body = call.body
  /-- It goes where the base says. -/
  server : ∃ there, Url.ofText? base hosts = some there ∧ r.url.scheme = there.scheme ∧
    r.url.toAuthority = there.toAuthority
  url : ∃ url, Url.ofText? (withoutEndSlashes base ++ "/machine" ++ call.path) hosts = some url ∧
    r.url = if call.fields.isEmpty then url else url.withFields call.fields

/-- There is a request for every call, whatever is in it. -/
theorem exists_asks (hbase : Url.IsBase base hosts) (call : MachineCall) :
    ∃ r, call.request? base hosts = some r ∧ call.Asks base hosts r := by
  obtain ⟨ends, hsplit, hends⟩ := withoutEndSlashes_split base
  obtain ⟨scheme, slashes, site, rest, hscheme, hsite, -, hthere, hparts⟩ :=
    hbase.parts hsplit hends
  obtain ⟨scheme, hscheme⟩ := Option.isSome_iff_exists.1 hscheme
  obtain ⟨authority, hauthority⟩ := Option.isSome_iff_exists.1 hsite
  have haddress := hparts ("machine".toList ++ call.path.toList)
  rw [← address_toList] at haddress
  have hurl := haddress.ofText? hosts
  have hbaseUrl := hthere.ofText? hosts
  rw [hscheme, hauthority] at hurl hbaseUrl
  refine ⟨_, by rw [request?, hurl]; rfl, rfl, rfl, ⟨_, hbaseUrl, ?_⟩, _, hurl, rfl⟩
  split
  · exact ⟨rfl, rfl⟩
  · exact ⟨rfl, rfl⟩

/-! ## Runs -/

/-- Sending that keeps every request, in order, and answers by what was sent so far. -/
def recorded (answers : List MachineRequest → MachineAnswer) (r : MachineRequest) :
    StateM (List MachineRequest) MachineAnswer :=
  fun sent => (answers (sent ++ [r]), sent ++ [r])

/-- A call is run by sending one request, whatever was sent before and whatever comes back, and
reports the answer for what it is. -/
structure Exchanges (call : MachineCall) (base : String) (hosts : String → Option String)
    (r : MachineRequest) : Prop where
  sends : ∀ answers sent, (call.run base (recorded answers) hosts).run sent
    = (call.result (answers (sent ++ [r])), sent ++ [r])
  reports : ∀ answers sent status contentType body complete text,
    answers (sent ++ [r]) = .answered status contentType body complete →
      isReadable status contentType = true → textOf status contentType body complete = some text →
        call.Reports status text ((call.run base (recorded answers) hosts).run sent).1

theorem run_eq {m : Type → Type} [Monad m] {r : MachineRequest}
    (h : call.request? base hosts = some r) (send : MachineRequest → m MachineAnswer) :
    call.run base send hosts = send r >>= fun answer => pure (call.result answer) := by
  -- `unfold` would reduce the reading of the URL first
  delta run
  rw [h]

theorem exchanges_of_request? {r : MachineRequest} (h : call.request? base hosts = some r) :
    call.Exchanges base hosts r := by
  have hsends (answers : List MachineRequest → MachineAnswer) (sent : List MachineRequest) :
      (call.run base (recorded answers) hosts).run sent
        = (call.result (answers (sent ++ [r])), sent ++ [r]) := by
    rw [run_eq h]
    rfl
  refine ⟨hsends, ?_⟩
  intro answers sent status contentType body complete text hanswer hreadable htext
  rw [hsends, hanswer]
  exact reports_result hreadable htext

/-- **Every answer is reported for what it is.** At a base, any call sends one request and no other,
the same however many slashes the base ends in, and gives what the answer to it means. -/
theorem answers_reported (hbase : Url.IsBase base hosts) (call : MachineCall) :
    ∃ r, call.Asks base hosts r ∧ ∀ slashes : List Char, (∀ c ∈ slashes, c = '/') →
      call.Exchanges (base ++ String.ofList slashes) hosts r := by
  obtain ⟨r, hr, hasks⟩ := exists_asks hbase call
  refine ⟨r, hasks, fun slashes hslashes => exchanges_of_request? ?_⟩
  rw [request_slashes hslashes, hr]

/-- A machine service that is busy is reported with its words. -/
theorem answers_reported_busy : ∃ r : MachineRequest, r.url.host = "127.0.0.1" ∧
    ((execute "m1" "mvn" none).run (localBase ++ "//")
        (recorded fun _ => .answered 503 none (Bytes.ofText "busy") true)).run []
      = (.error (.status 503 "busy"), [r]) := by
  obtain ⟨r, hasks, hruns⟩ := answers_reported localBase_isBase (execute "m1" "mvn" none)
  have hrun := hruns ['/', '/'] (by simp)
  obtain ⟨there, hthere, -, hserver⟩ := hasks.server
  have hhost : (Url.ofText? localBase).map (fun url => url.host) = some "127.0.0.1" := by
    decide +kernel
  rw [hthere] at hhost
  have hbusy := hrun.reports (fun _ => .answered 503 none (Bytes.ofText "busy") true) [] 503 none
    (Bytes.ofText "busy") true "busy" rfl (by decide +kernel) (by decide +kernel)
  have hresult := hbusy.refused.2 fun hsuccess => absurd hsuccess.2 (by decide)
  refine ⟨r, (congrArg Url.Authority.host hserver).trans (Option.some.inj hhost), ?_⟩
  exact Prod.ext hresult (congrArg Prod.snd (hrun.sends _ []))

end CloudIde.MachineCall
