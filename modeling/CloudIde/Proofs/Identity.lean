import CloudIde.Proofs.Lifecycle
import CloudIde.Proofs.Operation
import CloudIde.Proofs.ServiceCalls
import CloudIde.Proofs.Trimming
import Mathlib.Data.List.Sort

/-!
# Who is known from the headers of a request

The headers of a request name its caller, or nobody: then there is no caller, and nothing but
whether the service is healthy is answered. `Headers.Identify` says what it is that they name, with
no word of how it is found: the user is the core of the first value of one header, the roles are the
cores of the pieces of the first value of another, and neither value counts when it has a byte that
cannot be read.

`identified` says that callers are extracted just so, that of any list of names with commas and
blanks between them just these names are held, and that whoever is not named is turned away alike
wherever and whatever they ask.
-/

namespace CloudIde

theorem RoleSet.ext {roles roles' : RoleSet} (h : ∀ role, role ∈ roles ↔ role ∈ roles') :
    roles = roles' := by
  obtain ⟨names, hascending⟩ := roles
  obtain ⟨names', hascending'⟩ := roles'
  obtain rfl : names = names' := hascending.eq_of_mem_iff hascending' fun role => h role
  rfl

/-! ## Values that can be read -/

/-- A byte that is a tab, a space or a visible ASCII character. -/
def LegibleByte (b : UInt8) : Prop := b = 0x09 ∨ 0x20 ≤ b ∧ b ≤ 0x7E

/-- All bytes of a value can be read. -/
def Legible (value : Bytes) : Prop := ∀ b ∈ value, LegibleByte b

theorem legible_iff {value : Bytes} : value.all Headers.isVisible = true ↔ Legible value := by
  simp [Legible, LegibleByte, Headers.isVisible]

theorem LegibleByte.ascii {b : UInt8} (h : LegibleByte b) : b < 0x80 := by
  rcases h with rfl | ⟨-, h⟩
  · decide
  · exact UInt8.lt_of_le_of_lt h (by decide)

/-- A character below the last of ASCII, without those that control, is spelled by a byte that can
be read. -/
theorem legible_char {c : Char} (h : c = '\t' ∨ 0x20 ≤ c.toNat ∧ c.toNat ≤ 0x7E) :
    ∃ b, LegibleByte b ∧ String.utf8EncodeChar c = [b] := by
  have hsmall : c.toNat < 256 := by
    rcases h with rfl | h
    · decide
    · omega
  have hnumber : (UInt8.ofNat c.toNat).toNat = c.toNat := by
    rw [UInt8.toNat_ofNat']
    exact Nat.mod_eq_of_lt hsmall
  have hlegible : LegibleByte (UInt8.ofNat c.toNat) := by
    rcases h with rfl | h
    · exact Or.inl rfl
    · refine Or.inr ⟨?_, ?_⟩
      · rw [UInt8.le_iff_toNat_le, hnumber]
        exact h.1
      · rw [UInt8.le_iff_toNat_le, hnumber]
        exact h.2
  refine ⟨_, hlegible, ?_⟩
  have hspells := Bytes.utf8EncodeChar_ascii hlegible.ascii
  rw [hnumber, Char.ofNat_toNat] at hspells
  exact hspells

theorem legible_ofText {text : String}
    (h : ∀ c ∈ text.toList, c = '\t' ∨ 0x20 ≤ c.toNat ∧ c.toNat ≤ 0x7E) :
    Legible (Bytes.ofText text) := by
  intro b hb
  rw [Bytes.ofText_eq] at hb
  obtain ⟨c, hc, hb⟩ := List.mem_flatMap.1 hb
  obtain ⟨d, hd, hspells⟩ := legible_char (h c hc)
  rw [hspells, List.mem_singleton] at hb
  exact hb ▸ hd

/-- The bytes of a legible value are the characters of its text. -/
theorem ofText_legible {value : Bytes} (h : Legible value) :
    Bytes.ofText (String.ofList (value.map fun b => Char.ofNat b.toNat)) = value :=
  Bytes.ofText_ascii fun b hb => (h b hb).ascii

namespace Headers

variable {headers : Headers} {name : String}

/-- A legible value is the text that its bytes spell. -/
theorem visibleText?_iff {value : Bytes} {text : String} :
    visibleText? value = some text ↔ Legible value ∧ value = Bytes.ofText text := by
  unfold visibleText?
  by_cases hlegible : Legible value
  · have hspells := ofText_legible hlegible
    rw [if_pos (legible_iff.2 hlegible), Option.some.injEq]
    constructor
    · rintro rfl
      exact ⟨hlegible, hspells.symm⟩
    · rintro ⟨-, hvalue⟩
      exact Bytes.ofText_inj.1 (hspells.trans hvalue)
  · rw [if_neg fun hvisible => hlegible (legible_iff.1 hvisible)]
    exact ⟨fun h => absurd h (by simp), fun h => absurd h.1 hlegible⟩

/-- The first value that headers give under a name. -/
def Gives (headers : Headers) (name : String) (value : Bytes) : Prop :=
  ∃ before given after, headers = before ++ (given, value) :: after ∧ lowerName given = name ∧
    ∀ header ∈ before, lowerName header.1 ≠ name

/-- The first value under a name can be read, and is a text. -/
def Say (headers : Headers) (name text : String) : Prop :=
  headers.Gives name (Bytes.ofText text) ∧ Legible (Bytes.ofText text)

theorem first?_iff {value : Bytes} :
    headers.first? name = some value ↔ headers.Gives (lowerName name) value := by
  unfold first?
  rw [Option.map_eq_some_iff]
  simp only [List.find?_eq_some_iff_append, decide_eq_true_eq, Bool.not_eq_true',
    decide_eq_false_iff_not]
  constructor
  · rintro ⟨⟨given, _⟩, ⟨hname, before, after, hheaders, hbefore⟩, rfl⟩
    exact ⟨before, given, after, hheaders, hname, hbefore⟩
  · rintro ⟨before, given, after, hheaders, hname, hbefore⟩
    exact ⟨(given, value), ⟨hname, before, after, hheaders, hbefore⟩, rfl⟩

theorem text?_iff {text : String} :
    headers.text? name = some text ↔ headers.Say (lowerName name) text := by
  unfold text?
  rw [Option.bind_eq_some_iff]
  constructor
  · rintro ⟨value, hvalue, htext⟩
    obtain ⟨hlegible, rfl⟩ := visibleText?_iff.1 htext
    exact ⟨first?_iff.1 hvalue, hlegible⟩
  · rintro ⟨hgives, hlegible⟩
    exact ⟨_, first?_iff.2 hgives, visibleText?_iff.2 ⟨hlegible, rfl⟩⟩

/-- Without a text there is no value, or one that cannot be read. -/
theorem text?_none :
    headers.text? name = none ↔ (∀ value, ¬ headers.Gives (lowerName name) value) ∨
      ∃ value, headers.Gives (lowerName name) value ∧ ¬ Legible value := by
  unfold text?
  cases hfirst : headers.first? name with
  | none =>
    refine ⟨fun _ => Or.inl fun value hvalue => ?_, fun _ => rfl⟩
    rw [first?_iff.2 hvalue] at hfirst
    exact absurd hfirst (by simp)
  | some value =>
    have hgives := first?_iff.1 hfirst
    rw [Option.bind_some]
    constructor
    · intro hnone
      refine Or.inr ⟨value, hgives, fun hlegible => ?_⟩
      rw [visibleText?_iff.2 ⟨hlegible, (ofText_legible hlegible).symm⟩] at hnone
      exact absurd hnone (by simp)
    · rintro (hnever | ⟨other, hother, hillegible⟩)
      · exact absurd hgives (hnever value)
      · rw [← first?_iff, hfirst] at hother
        cases hother
        exact if_neg fun hvisible => hillegible (legible_iff.1 hvisible)

/-! ## Callers -/

/-- A role is named: it is the core of a piece of the value that lists the roles. -/
def NameRole (headers : Headers) (role : String) : Prop :=
  ∃ text piece, headers.Say "x-user-roles" text ∧ IsPiece ',' piece text.toList ∧
    Trims piece role.toList ∧ role ≠ ""

/-- What a caller is known by. -/
structure Identify (headers : Headers) (caller : Caller) : Prop where
  user : ∃ text, headers.Say "x-user-id" text ∧ Trims text.toList caller.user.toList
  user_ne : caller.user ≠ ""
  roles : ∀ role, role ∈ caller.roles ↔ headers.NameRole role

/-- Nobody is known: the value that names the user is missing, cannot be read or is blank. -/
def Nobody (headers : Headers) : Prop :=
  (∀ value, ¬ headers.Gives "x-user-id" value) ∨
    (∃ value, headers.Gives "x-user-id" value ∧ ¬ Legible value) ∨
    ∃ text, headers.Say "x-user-id" text ∧ AllBlank text.toList

/-- The roles that are listed are those that are named. -/
theorem mem_listed {role : String} :
    role ∈ ((headers.text? Caller.rolesHeader).map commaList).getD [] ↔ headers.NameRole role := by
  cases htext : headers.text? Caller.rolesHeader with
  | none =>
    refine ⟨fun h => absurd h (by simp), ?_⟩
    rintro ⟨text, -, hsay, -⟩
    have hsome : headers.text? Caller.rolesHeader = some text := text?_iff.2 hsay
    rw [htext] at hsome
    exact absurd hsome (by simp)
  | some text =>
    rw [Option.map_some, Option.getD_some, mem_commaList]
    constructor
    · rintro ⟨piece, hpiece, htrims, hne⟩
      exact ⟨text, piece, text?_iff.1 htext, hpiece, htrims, hne⟩
    · rintro ⟨other, piece, hsay, hpiece, htrims, hne⟩
      have hsame : headers.text? Caller.rolesHeader = some other := text?_iff.2 hsay
      rw [htext] at hsame
      cases hsame
      exact ⟨piece, hpiece, htrims, hne⟩

end Headers

namespace Caller

variable {headers : Headers}

theorem trim_iff {text name : String} : trim text = name ↔ Trims text.toList name.toList := by
  unfold trim
  rw [← trimChars_iff, ← String.toList_inj, String.toList_ofList]

/-- **A caller is extracted exactly when the headers name this caller.** -/
theorem ofHeaders_iff {caller : Caller} :
    ofHeaders headers = .ok caller ↔ headers.Identify caller := by
  unfold ofHeaders
  constructor
  · intro h
    split at h
    · exact absurd h (by simp)
    · next user huser =>
      split at h
      · exact absurd h (by simp)
      · next hsome =>
        cases h
        obtain ⟨text, htext, htrim⟩ := Option.map_eq_some_iff.1 huser
        exact {
          user := ⟨text, Headers.text?_iff.1 htext, trim_iff.1 htrim⟩
          user_ne := by simpa using hsome
          roles := fun role => RoleSet.mem_ofList.trans Headers.mem_listed }
  · intro h
    obtain ⟨text, hsay, htrims⟩ := h.user
    have htext : headers.text? userHeader = some text := Headers.text?_iff.2 hsay
    have huser : (headers.text? userHeader).map trim = some caller.user := by
      rw [htext, Option.map_some, trim_iff.2 htrims]
    have hroles : RoleSet.ofList (((headers.text? rolesHeader).map commaList).getD [])
        = caller.roles :=
      RoleSet.ext fun role =>
        (RoleSet.mem_ofList.trans Headers.mem_listed).trans (h.roles role).symm
    rw [huser]
    simp only [h.user_ne, hroles, String.isEmpty_iff, if_false]

theorem trim_eq_empty {text : String} : trim text = "" ↔ AllBlank text.toList := by
  rw [← trimChars_eq_nil, trim_iff, ← trimChars_iff]
  rfl

/-- **Nobody is extracted exactly when the headers name nobody.** -/
theorem ofHeaders_nobody :
    ofHeaders headers = .error .missingIdentity ↔ headers.Nobody := by
  have hnone : headers.text? userHeader = none ↔
      (∀ value, ¬ headers.Gives "x-user-id" value) ∨
        ∃ value, headers.Gives "x-user-id" value ∧ ¬ Legible value := Headers.text?_none
  unfold ofHeaders Headers.Nobody
  rw [← or_assoc, ← hnone]
  cases htext : headers.text? userHeader with
  | none => exact ⟨fun _ => Or.inl rfl, fun _ => rfl⟩
  | some text =>
    have hsay : headers.Say "x-user-id" text := Headers.text?_iff.1 htext
    rw [Option.map_some]
    constructor
    · intro h
      by_cases hempty : trim text = ""
      · exact Or.inr ⟨text, hsay, trim_eq_empty.1 hempty⟩
      · simp only [String.isEmpty_iff, hempty, if_false] at h
        exact absurd h (by simp)
    · rintro (hno | ⟨other, hother, hblank⟩)
      · exact absurd hno (by simp)
      · have hsame : headers.text? userHeader = some other := Headers.text?_iff.2 hother
        rw [htext] at hsame
        cases hsame
        simp [trim_eq_empty.2 hblank]

/-- Privileged is who is named an administrator or a manager. -/
theorem isPrivileged_iff {caller : Caller} (h : headers.Identify caller) :
    caller.isPrivileged = true ↔
      headers.NameRole "system/admin" ∨ headers.NameRole "system/manager" := by
  rw [← h.roles, ← h.roles]
  unfold isPrivileged
  rw [Bool.or_eq_true]
  exact or_congr decide_eq_true_iff decide_eq_true_iff

end Caller

/-! ## Lists of names -/

/-- A name, or none, with spaces and tabs around it. -/
structure Slot where
  before : List Char
  name : String
  after : List Char
  blank : ∀ c ∈ before ++ after, c = ' ' ∨ c = '\t'
  visible : ∀ c ∈ name.toList, 0x20 ≤ c.toNat ∧ c.toNat ≤ 0x7E
  whole : ',' ∉ name.toList
  trimmed : Trimmed name.toList

namespace Slot

/-- The characters of a slot. -/
def chars (slot : Slot) : List Char := slot.before ++ slot.name.toList ++ slot.after

/-- The slots with commas between them. -/
def joined : List Slot → List Char
  | [] => []
  | [slot] => slot.chars
  | slot :: next :: rest => slot.chars ++ ',' :: joined (next :: rest)

/-- What the slots spell. -/
def value (slots : List Slot) : Bytes := Bytes.ofText (String.ofList (joined slots))

variable (slot : Slot)

theorem blank_char {c : Char} (h : c ∈ slot.before ++ slot.after) : isBlank c = true ∧ c ≠ ',' := by
  rcases slot.blank c h with rfl | rfl
  · decide
  · decide

theorem trims : Trims slot.chars slot.name.toList :=
  ⟨slot.before, slot.after, rfl,
    fun _ hc => (slot.blank_char (List.mem_append_left _ hc)).1,
    fun _ hc => (slot.blank_char (List.mem_append_right _ hc)).1, slot.trimmed⟩

theorem comma_not_mem : ',' ∉ slot.chars := by
  intro h
  unfold chars at h
  rcases List.mem_append.1 h with h | h
  · rcases List.mem_append.1 h with h | h
    · exact (slot.blank_char (List.mem_append_left _ h)).2 rfl
    · exact slot.whole h
  · exact (slot.blank_char (List.mem_append_right _ h)).2 rfl

theorem legible {c : Char} (h : c ∈ slot.chars) :
    c = '\t' ∨ 0x20 ≤ c.toNat ∧ c.toNat ≤ 0x7E := by
  have hblank (h : c ∈ slot.before ++ slot.after) :
      c = '\t' ∨ 0x20 ≤ c.toNat ∧ c.toNat ≤ 0x7E := by
    rcases slot.blank c h with rfl | rfl
    · exact Or.inr (by decide)
    · exact Or.inl rfl
  unfold chars at h
  rcases List.mem_append.1 h with h | h
  · rcases List.mem_append.1 h with h | h
    · exact hblank (List.mem_append_left _ h)
    · exact Or.inr (slot.visible c h)
  · exact hblank (List.mem_append_right _ h)

/-- The pieces of slots with commas between them are the slots. -/
theorem pieces_joined (rest : List Slot) :
    pieces ',' (joined (slot :: rest)) = (slot :: rest).map chars := by
  induction rest generalizing slot with
  | nil => exact pieces_last slot.comma_not_mem
  | cons next rest ih =>
    rw [joined, pieces_append slot.comma_not_mem, ih next]
    rfl

theorem legible_value (slots : List Slot) : Legible (value slots) := by
  refine legible_ofText fun c hc => ?_
  rw [String.toList_ofList] at hc
  induction slots using joined.induct with
  | case1 => exact absurd hc List.not_mem_nil
  | case2 slot => exact slot.legible hc
  | case3 slot next rest ih =>
    rw [joined] at hc
    rcases List.mem_append.1 hc with hc | hc
    · exact slot.legible hc
    · rcases List.mem_cons.1 hc with rfl | hc
      · exact Or.inr (by decide)
      · exact ih hc

/-- What the slots spell lists their names, in their order. -/
theorem commaList_joined (slots : List Slot) :
    commaList (String.ofList (joined slots))
      = (slots.map Slot.name).filter fun name => !name.isEmpty := by
  cases slots with
  | nil => rfl
  | cons slot rest =>
    have htrimmed : ((slot :: rest).map chars).map trimChars
        = (slot :: rest).map fun slot => slot.name.toList := by
      rw [List.map_map]
      exact List.map_congr_left fun slot _ => trimChars_iff.2 slot.trims
    unfold commaList
    rw [String.toList_ofList, pieces_joined, htrimmed]
    generalize slot :: rest = slots
    induction slots with
    | nil => rfl
    | cons slot rest ih =>
      rw [List.map_cons, List.map_cons, List.filterMap_cons, ih, List.filter_cons]
      by_cases hempty : slot.name = ""
      · simp [hempty]
      · simp [hempty]

end Slot

/-- Of slots the names are held, and no others. -/
theorem Headers.nameRole_joined {headers : Headers} {slots : List Slot}
    (h : headers.Gives "x-user-roles" (Slot.value slots)) (role : String) :
    headers.NameRole role ↔ role ≠ "" ∧ role ∈ slots.map Slot.name := by
  have hsay : headers.text? Caller.rolesHeader = some (String.ofList (Slot.joined slots)) :=
    text?_iff.2 ⟨h, Slot.legible_value slots⟩
  rw [← mem_listed, hsay, Option.map_some, Option.getD_some, Slot.commaList_joined,
    List.mem_filter, and_comm]
  simp

/-! ## Requests of nobody -/

namespace Http

variable {r : Request} {resource : Resource}

theorem operation_nobody (h : r.headers.Nobody) (hhealth : resource ≠ .health) (method : Method) :
    r.operation resource method = .error (.failed .missingIdentity) := by
  unfold Request.operation Request.caller
  rw [if_neg hhealth, Caller.ofHeaders_nobody.2 h]
  rfl

/-- **Nobody is turned away**, before anything else of the request is looked at. -/
theorem respond_nobody (ctx : Context) (s : Store) (h : r.headers.Nobody)
    (hhealth : resource ≠ .health) (hpath : Resource.ofPath? r.path = some resource) :
    (∀ method ∈ resource.methods, r.method = method.text →
      respond ctx s r = .unchanged s ⟨401, .failure .missingIdentity, none⟩) ∧
    (.get ∈ resource.methods → r.method = "HEAD" →
      respond ctx s r = .unchanged s ⟨401, .nothing, none⟩) := by
  constructor
  · intro method hknown hmethod
    refine respond_of_no_demand ?_
    rw [Request.demand_eq hpath hmethod hknown, operation_nobody h hhealth method]
    rfl
  · intro hknown hhead
    refine respond_of_no_demand ?_
    unfold Request.demand
    rw [hpath]
    simp only [hhead, hknown, and_self, if_true, operation_nobody h hhealth .get]
    rfl

/-- **Who is known, and what becomes of who is not.** For all headers

* nobody is extracted exactly when the first value that names the user is missing, has a byte that
  cannot be read, or is blank, and otherwise the one caller that the headers name;
* a caller is privileged exactly when one of the roles that are named is that of an administrator or
  a manager of the platform;
* of names with commas, spaces and tabs between them, each of these names is held and nothing else;
* a request of nobody for anything but the health of the service is answered by one and the same
  refusal, whatever is stored. -/
theorem identified (headers : Headers) :
    (Caller.ofHeaders headers = .error .missingIdentity ↔ headers.Nobody) ∧
    (∀ f, Caller.ofHeaders headers = .error f → f = .missingIdentity ∧ f.kind = .unauthorized) ∧
    (∀ caller, Caller.ofHeaders headers = .ok caller ↔ headers.Identify caller) ∧
    (∀ caller, headers.Identify caller → (caller.isPrivileged = true ↔
      headers.NameRole "system/admin" ∨ headers.NameRole "system/manager")) ∧
    (∀ slots, headers.Gives "x-user-roles" (Slot.value slots) →
      ∀ caller, headers.Identify caller →
        ∀ role, role ∈ caller.roles ↔ role ≠ "" ∧ role ∈ slots.map Slot.name) ∧
    (headers.Nobody → ∀ (r : Request) (resource : Resource), r.headers = headers →
      resource ≠ .health → Resource.ofPath? r.path = some resource → ∀ ctx s,
        (∀ method ∈ resource.methods, r.method = method.text →
          respond ctx s r = .unchanged s ⟨401, .failure .missingIdentity, none⟩) ∧
        (.get ∈ resource.methods → r.method = "HEAD" →
          respond ctx s r = .unchanged s ⟨401, .nothing, none⟩)) := by
  refine ⟨Caller.ofHeaders_nobody, fun f hf => ?_, fun caller => Caller.ofHeaders_iff,
    fun caller hcaller => Caller.isPrivileged_iff hcaller,
    fun slots hslots caller hcaller role => ?_, ?_⟩
  · obtain rfl : f = .missingIdentity := ofHeaders_fails headers f hf
    exact ⟨rfl, rfl⟩
  · rw [hcaller.roles, Headers.nameRole_joined hslots]
  · rintro hnobody r resource rfl hhealth hpath ctx s
    exact respond_nobody ctx s hnobody hhealth hpath

/-- A user and an administrator, the user twice, with an empty piece and a tab. -/
def rootSlots : List Slot :=
  [⟨[], "user", [], by simp, by simp, by decide, by simp [Trimmed, StartsInked, isBlank]⟩,
    ⟨['\t'], "system/admin", [' '], by simp, by simp, by decide,
      by simp [Trimmed, StartsInked, isBlank]⟩,
    ⟨[' '], "", [], by simp, by simp, by decide, trimmed_nil⟩,
    ⟨[], "user", [], by simp, by simp, by decide, by simp [Trimmed, StartsInked, isBlank]⟩]

/-- The headers that name root, and further roles too late. -/
def rootHeaders : Headers :=
  [("X-User-Id", Bytes.ofText " root"), ("x-user-roles", Slot.value rootSlots),
    ("x-user-roles", Bytes.ofText "system/manager")]

/-- Root is privileged as an administrator; who is named by blanks alone is turned away. -/
theorem identified_root :
    (∃ caller, Caller.ofHeaders rootHeaders = .ok caller ∧ caller.user = "root" ∧
      caller.isPrivileged = true ∧
      ∀ role, role ∈ caller.roles ↔ role = "user" ∨ role = "system/admin") ∧
    respond mailOnly Store.empty { leaving with headers := [("x-user-id", Bytes.ofText " \t")] }
      = .unchanged Store.empty ⟨401, .failure .missingIdentity, none⟩ := by
  constructor
  · have hslots : Headers.Gives rootHeaders "x-user-roles" (Slot.value rootSlots) :=
      ⟨[("X-User-Id", Bytes.ofText " root")], "x-user-roles",
        [("x-user-roles", Bytes.ofText "system/manager")], rfl, rfl, by decide⟩
    obtain ⟨-, -, hknown, -, hroles, -⟩ := identified rootHeaders
    have hroot : Caller.ofHeaders rootHeaders
        = .ok ⟨"root", RoleSet.ofList ["user", "system/admin", "user"]⟩ := rfl
    refine ⟨_, hroot, rfl, by decide, fun role => ?_⟩
    rw [hroles rootSlots hslots _ ((hknown _).1 hroot)]
    have hnames : rootSlots.map Slot.name = ["user", "system/admin", "", "user"] := rfl
    rw [hnames]
    simp only [List.mem_cons, List.not_mem_nil, or_false]
    constructor
    · rintro ⟨hne, hrole | hrole | hrole | hrole⟩
      · exact Or.inl hrole
      · exact Or.inr hrole
      · exact absurd hrole hne
      · exact Or.inl hrole
    · rintro (rfl | rfl)
      · exact ⟨by decide, Or.inl rfl⟩
      · exact ⟨by decide, Or.inr (Or.inl rfl)⟩
  · obtain ⟨-, -, -, -, -, hturned⟩ := identified [("x-user-id", Bytes.ofText " \t")]
    have hnobody : Headers.Nobody [("x-user-id", Bytes.ofText " \t")] :=
      Caller.ofHeaders_nobody.1 rfl
    exact (hturned hnobody { leaving with headers := [("x-user-id", Bytes.ofText " \t")] }
      (.subscription "first") rfl (by simp) (by decide +kernel) mailOnly Store.empty).1 .delete
      (by decide) rfl

end Http

end CloudIde
