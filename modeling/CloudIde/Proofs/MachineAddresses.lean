import CloudIde.Machine.Client
import CloudIde.Proofs.UrlPaths

/-!
# What requests to the machine service address

A call is meant for what it names: the machines of a workspace, a machine, the commands of a machine
or a project bound to it. `requests_address` says when the request addresses it. What stands in the
query always arrives; a machine and a project are written into the path as they are, so they arrive
exactly when they are plain.
-/

namespace CloudIde

/-- A URL says some names below a path and some fields in its query, as a server reads them. -/
structure Url.Says (url : Url) (home names : List String) (fields : List (String × String)) :
    Prop where
  path : ∃ segments, url.path = home ++ segments ∧
    segments.map (fun segment => Percent.decode (Bytes.ofText segment)) = names.map Bytes.ofText
  query : url.query.map (fun query => Form.fields (Bytes.ofText query))
    = if fields.isEmpty then none else some fields

namespace MachineCall

variable {base : String} {hosts : String → Option String} {call : MachineCall}

/-- The machine that a call is for. -/
def machine? : MachineCall → Option String
  | destroy machine | execute machine .. | bind machine _ | unbind machine _ => some machine
  | _ => none

/-- What a call is for, below the service. -/
def names : MachineCall → List String
  | create .. => ["machine", "recipe"]
  | restore .. => ["machine", "snapshot"]
  | list .. => ["machine"]
  | destroy machine => ["machine", machine]
  | execute machine .. => ["machine", machine, "command"]
  | bind machine project | unbind machine project =>
    "machine" :: machine :: "binding" ::
      (pieces '/' (withoutFrontSlashes project).toList).map String.ofList

/-- What a call is for can be written into a path as it is, and the path does not end in white
space. -/
structure Plain (call : MachineCall) : Prop where
  names : ∀ name ∈ call.names, Url.IsPlain name
  ends : ∀ c ∈ call.path.toList.getLast?, Url.isOuter c = false

instance (call : MachineCall) : Decidable call.Plain :=
  decidable_of_iff ((∀ name ∈ call.names, Url.IsPlain name) ∧
      call.path.toList.getLast?.all (fun c => !Url.isOuter c) = true)
    ⟨fun ⟨names, ends⟩ => ⟨names, by simpa [Option.all_eq_true] using ends⟩,
      fun ⟨names, ends⟩ => ⟨names, by simpa [Option.all_eq_true] using ends⟩⟩

/-- The segments of the path that a base has. -/
def home (base : String) (hosts : String → Option String := Url.plainHost?) : List String :=
  ((Url.ofText? (withoutEndSlashes base ++ "/") hosts).map fun url => url.path.dropLast).getD []

/-! ## The text of a URL -/

theorem withoutEndSlashes_split (base : String) :
    ∃ slashes, base.toList = (withoutEndSlashes base).toList ++ slashes ∧
      ∀ c ∈ slashes, c = '/' := by
  refine ⟨(base.toList.reverse.takeWhile (· = '/')).reverse, ?_, fun c hc => ?_⟩
  · rw [withoutEndSlashes, String.toList_ofList, trimEndChars, ← List.reverse_append,
      List.takeWhile_append_dropWhile, List.reverse_reverse]
  · simpa using List.all_eq_true.1 List.all_takeWhile c (List.mem_reverse.1 hc)

theorem address_toList (call : MachineCall) (base : String) : (call.address base).toList
    = (withoutEndSlashes base).toList ++ '/' :: ("machine".toList ++ call.path.toList) := by
  rw [address, String.toList_append, String.toList_append, List.append_assoc]
  rfl

theorem names_joined (call : MachineCall) :
    ['/'].intercalate (call.names.map String.toList) = "machine".toList ++ call.path.toList := by
  have hjoin {part : List Char} {parts : List (List Char)} (h : parts ≠ []) :
      ['/'].intercalate (part :: parts) = part ++ '/' :: ['/'].intercalate parts := by
    match parts, h with
    | next :: rest, _ =>
      rw [List.intercalate_cons_cons, List.append_assoc, List.singleton_append]
  cases call with
  | create | restore => simp [names, path, List.intercalate_cons_cons]
  | list => rfl
  | destroy machine => simp [names, path, machinePath, List.intercalate_cons_cons]
  | execute machine commandLine channel =>
    simp [names, path, machinePath, List.intercalate_cons_cons]
  | bind machine project | unbind machine project =>
    have hproject : ((pieces '/' (withoutFrontSlashes project).toList).map String.ofList).map
        String.toList = pieces '/' (withoutFrontSlashes project).toList := by
      simp [List.map_map]
    simp only [names, path, bindingPath, machinePath, List.map_cons, hproject]
    rw [hjoin (by simp), hjoin (by simp), hjoin (pieces_ne_nil _), intercalate_pieces]
    simp

theorem names_ne_nil (call : MachineCall) : call.names ≠ [] := by
  cases call <;> exact List.cons_ne_nil _ _

/-! ## What a request addresses -/

theorem ends_iff (call : MachineCall) :
    (∀ c ∈ ("machine".toList ++ call.path.toList).getLast?, Url.isOuter c = false) ↔
      ∀ c ∈ call.path.toList.getLast?, Url.isOuter c = false := by
  rw [List.getLast?_append]
  cases call.path.toList.getLast? with
  | none =>
    refine iff_of_true ?_ (by simp)
    rintro c ⟨⟩
    decide
  | some c => rfl

/-- The request for a call to the service at a base. -/
theorem exists_request (hbase : Url.IsBase base hosts)
    (hpath : ∀ c ∈ base.toList, c ≠ '?' ∧ c ≠ '#') (call : MachineCall) :
    ∃ r url, call.request? base hosts = some r ∧
      r.url = (if call.fields.isEmpty then url else url.withFields call.fields) ∧
      url.path = Url.addSegments (home base hosts) (pieces '/' (Url.slashed
        (Url.pathPart ("machine".toList ++ call.path.toList)))) ∧
      url.query = (Url.queryPart ("machine".toList ++ call.path.toList)).map
        (Url.encoded Url.keptInQuery) := by
  obtain ⟨slashes, hsplit, hslashes⟩ := withoutEndSlashes_split base
  obtain ⟨above, hbelow⟩ := hbase.below hpath hsplit hslashes
  have hhome : home base hosts = above := by
    obtain ⟨url, hurl, hends, -⟩ := hbelow (withoutEndSlashes base ++ "/") [] (by simp)
    have hlast : url.path = above ++ [""] := hends
    simp [home, hurl, hlast]
  obtain ⟨url, hurl, hsegments, hquery⟩ := hbelow _ _ (call.address_toList base)
  rw [hhome]
  refine ⟨⟨call.method, if call.fields.isEmpty then url else url.withFields call.fields,
    call.body⟩, url, ?_, rfl, hsegments, hquery⟩
  rw [request?, hurl]
  rfl

/-- Fields are read back from a URL that had no query. -/
theorem fields_withFields {url : Url} (h : url.query = none) (fields : List (String × String)) :
    (url.withFields fields).query.map (fun query => Form.fields (Bytes.ofText query))
      = some fields := by
  have hquery : (url.withFields fields).query = some (Utf8.lossy (Form.encode fields)) := by
    simp [Url.withFields, h]
  rw [hquery, Option.map_some, Utf8.ofText_lossy (Form.encode_ascii fields), Form.fields_encode]

theorem says_iff (hbase : Url.IsBase base hosts) (hpath : ∀ c ∈ base.toList, c ≠ '?' ∧ c ≠ '#')
    (call : MachineCall) : ∃ r, call.request? base hosts = some r ∧
      (r.url.Says (home base hosts) call.names call.fields ↔ call.Plain) := by
  obtain ⟨r, url, hr, hurl, hsegments, hquery⟩ := exists_request hbase hpath call
  have hsame : r.url.path = url.path := by
    rw [hurl]
    split
    · rfl
    · rfl
  have hiff := Url.below_iff (home base hosts) call.names_ne_nil call.names_joined
  rw [← hsegments, ← hsame, call.ends_iff] at hiff
  refine ⟨r, hr, fun hsaid => ?_, fun hplain => ⟨hiff.2 ⟨hplain.names, hplain.ends⟩, ?_⟩⟩
  · obtain ⟨hnames, hends⟩ := hiff.1 hsaid.path
    exact ⟨hnames, hends⟩
  · obtain ⟨-, hnone, -⟩ := Url.pathPart_plain call.names_joined hplain.names
      (call.ends_iff.2 hplain.ends)
    rw [hnone] at hquery
    rw [hurl]
    split
    · rw [hquery]
      rfl
    · exact fields_withFields hquery call.fields

theorem plain_of_machine? (h : call.machine? = none) : call.Plain := by
  have hplain : ∀ name ∈ ["machine", "recipe", "snapshot"], Url.IsPlain name := by
    decide +kernel
  have hnames (h : call.names ⊆ ["machine", "recipe", "snapshot"]) :
      ∀ name ∈ call.names, Url.IsPlain name := fun name hname => hplain name (h hname)
  have hends (text : String) (h : text.toList.getLast?.all (fun c => !Url.isOuter c) = true) :
      ∀ c ∈ text.toList.getLast?, Url.isOuter c = false := by
    simpa [Option.all_eq_true] using h
  cases call with
  | create => exact ⟨hnames (by simp [names]), hends "/recipe" (by decide)⟩
  | restore => exact ⟨hnames (by simp [names]), hends "/snapshot" (by decide)⟩
  | list => exact ⟨hnames (by simp [names]), hends "" (by decide)⟩
  | destroy | execute | bind | unbind => exact absurd h (by simp [machine?])

theorem machine_mem_names {machine : String} (h : machine ∈ call.machine?) :
    ∃ rest, call.names = "machine" :: machine :: rest := by
  cases call with
  | create | restore | list => exact absurd h (by simp [machine?])
  | destroy | execute | bind | unbind =>
    obtain rfl := Option.some.inj h
    exact ⟨_, rfl⟩

/-- **A request addresses what its call is for exactly when that is plain.** So requests about
different machines are for different URLs when both are plain, and what is no machine is always
addressed: a workspace and a project go into the query, which says anything. All this holds however
hosts are read. -/
theorem requests_address (hbase : Url.IsBase base hosts)
    (hpath : ∀ c ∈ base.toList, c ≠ '?' ∧ c ≠ '#') (call : MachineCall) :
    ∃ r, call.request? base hosts = some r ∧
      (r.url.Says (home base hosts) call.names call.fields ↔ call.Plain) ∧
      (call.machine? = none → r.url.Says (home base hosts) call.names call.fields) ∧
      ∀ (other : MachineCall) (r' : MachineRequest), other.request? base hosts = some r' →
        r'.url = r.url → call.Plain → other.Plain → ∀ machine ∈ call.machine?,
          ∀ machine' ∈ other.machine?, machine' = machine := by
  obtain ⟨r, hr, hsaid⟩ := says_iff hbase hpath call
  refine ⟨r, hr, hsaid, fun hnone => hsaid.2 (plain_of_machine? hnone), ?_⟩
  intro other r' hr' hsame hplain hplain' machine hmachine machine' hmachine'
  obtain ⟨r'', hr'', hsaid'⟩ := says_iff hbase hpath other
  obtain rfl := Option.some.inj (hr'.symm.trans hr'')
  obtain ⟨segments, hpath, hsegments⟩ := (hsaid.2 hplain).path
  obtain ⟨segments', hpath', hsegments'⟩ := (hsaid'.2 hplain').path
  rw [hsame, hpath] at hpath'
  obtain rfl := List.append_cancel_left hpath'
  have hnames : other.names = call.names := by
    refine List.map_inj_right (fun _ _ h => Bytes.ofText_inj.1 h) |>.1 ?_
    exact hsegments'.symm.trans hsegments
  obtain ⟨rest, hrest⟩ := machine_mem_names hmachine
  obtain ⟨rest', hrest'⟩ := machine_mem_names hmachine'
  rw [hrest, hrest'] at hnames
  exact (List.cons.inj (List.cons.inj hnames).2).1

/-- A base with a path. -/
def localBase : String := "http://127.0.0.1:8080/api/"

theorem localBase_isBase : Url.IsBase localBase where
  url := by decide +kernel
  ends := by
    have hlast : localBase.toList.getLast? = some '/' := by decide +kernel
    rw [hlast]
    rintro c ⟨⟩
    decide

theorem localBase_path : ∀ c ∈ localBase.toList, c ≠ '?' ∧ c ≠ '#' := by
  have hall : localBase.toList.all (fun c => c ≠ '?' && c ≠ '#') = true := by decide +kernel
  simpa using List.all_eq_true.1 hall

/-- A project is bound to a machine with a blank in its name. -/
theorem requests_address_bound : ∃ r, (bind "m 1" "/app/src").request? localBase = some r ∧
    r.url.Says ["api"] ["machine", "m 1", "binding", "app", "src"] [] := by
  obtain ⟨r, hr, hsaid, -, -⟩ :=
    requests_address localBase_isBase localBase_path (bind "m 1" "/app/src")
  exact ⟨r, hr, hsaid.2 (by decide +kernel)⟩

/-- The end of one machine can be asked for with the URL of another: the name of the one goes on
with a number sign where that of the other ends. -/
theorem destroys_another : ∃ r r', (destroy "m1#2").request? localBase = some r ∧
    (destroy "m1").request? localBase = some r' ∧ r.method = r'.method ∧ r.url = r'.url ∧
      ¬ r.url.Says (home localBase) ["machine", "m1#2"] [] := by
  obtain ⟨r, hr, hsaid⟩ := says_iff localBase_isBase localBase_path (destroy "m1#2")
  obtain ⟨r', hr', -⟩ := says_iff localBase_isBase localBase_path (destroy "m1")
  have hsame : ((destroy "m1#2").request? localBase).map (fun r => (r.method, r.url))
      = ((destroy "m1").request? localBase).map (fun r => (r.method, r.url)) := by
    decide +kernel
  rw [hr, hr'] at hsame
  have hparts := Prod.ext_iff.1 (Option.some.inj hsame)
  refine ⟨r, r', hr, hr', hparts.1, hparts.2, fun hright => ?_⟩
  exact absurd (hsaid.1 hright) (by decide +kernel)

end MachineCall

end CloudIde
