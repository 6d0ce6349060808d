import RenderSync.Proofs.Arrival
import RenderSync.Proofs.Reading

/-!
# Frames of events

An event goes into a frame and comes out of it as it was.  What is written and what is read are said
separately for each type, so there is one lemma for each type here (`ofJson?_sorted`, and
`ofJson?_fields` where the fields go into an object with others), from the leaves to the event: an
option that is left out, a kind spread over the fields of its variable, a tag that another one
surrounds.

The frame has one field more than the payload, and the fields of all objects in it are sorted.
Neither is seen by a reader: it asks for fields by their names, and an answer depends on which
fields are there, not on their order (`Json.ReadsByName`).  So what is read from sorted values is
what is read from values whose objects are sorted inside only (`Json.ReadsByName.sorted`).
-/

namespace RenderSync

/-! ## 1. The order of fields -/

namespace Json

namespace Fields

/-- A field with a new name is one field more. -/
theorem insert_perm {name : String} {fields : List (String × Json)}
    (h : name ∉ fields.map Prod.fst) (value : Json) :
    (insert name value fields).Perm ((name, value) :: fields) := by
  induction fields with
  | nil => exact .refl _
  | cons field rest ih =>
    obtain ⟨n, v⟩ := field
    obtain ⟨hne, hrest⟩ := not_or.mp (mt List.mem_cons.mpr h)
    rw [insert, if_neg hne]
    split
    · exact .refl _
    · exact ((ih hrest).cons (n, v)).trans (.swap (name, value) (n, v) rest)

/-- **Fields with different names are sorted, and nothing else.** -/
theorem ofEntries_perm {entries : List (String × Json)} (h : (entries.map Prod.fst).Nodup) :
    (ofEntries entries).Perm entries := by
  have hall : ∀ fields : List (String × Json), ((entries ++ fields).map Prod.fst).Nodup →
      (entries.foldl (fun fields entry => insert entry.1 entry.2 fields) fields).Perm
        (entries ++ fields) := by
    clear h
    induction entries with
    | nil => exact fun fields _ => .refl fields
    | cons entry rest ih =>
      intro fields hnames
      have hmoved : (rest ++ insert entry.1 entry.2 fields).Perm (entry :: rest ++ fields) := by
        rw [List.cons_append, List.map_cons, List.nodup_cons, List.map_append, List.mem_append,
          not_or] at hnames
        exact ((insert_perm hnames.1.2 entry.2).append_left rest).trans List.perm_middle
      rw [List.foldl_cons]
      exact (ih _ (((hmoved.map Prod.fst).nodup_iff).mpr hnames)).trans hmoved
  have hwhole := hall [] (by rwa [List.append_nil])
  rwa [List.append_nil] at hwhole

/-- **Where a field stands does not matter.** -/
theorem lookup_perm {fields others : List (String × Json)} (h : fields.Perm others)
    (names : List String) : lookup names fields = lookup names others := by
  have hvalues : (valuesOf names fields).Perm (valuesOf names others) := (h.filter _).map _
  unfold lookup
  match valuesOf names fields, valuesOf names others, hvalues with
  | [], _, hvalues => rw [hvalues.nil_eq]
  | [value], _, hvalues => rw [List.singleton_perm.mp hvalues]
  | _ :: _ :: _, [], hvalues => cases hvalues.eq_nil
  | _ :: _ :: _, [_], hvalues => cases hvalues.eq_singleton
  | _ :: _ :: _, _ :: _ :: _, _ => rfl

end Fields

theorem record?_perm {fields others : List (String × Json)} (h : fields.Perm others)
    (names : List (List String)) :
    record? names (.object fields) = record? names (.object others) := by
  simp only [record?, Fields.lookup_perm h]

/-- **An object is read by the names of its fields**, whatever their order is. -/
def ReadsByName {α : Type} (decode : Json → Option α) : Prop :=
  ∀ {fields others : List (String × Json)}, fields.Perm others →
    decode (.object fields) = decode (.object others)

/-- So is a tagged choice, if the fields of each choice are. -/
theorem readsByName_tagged? {α : Type} {decode : String × Json → Option α}
    (h : ∀ tag, ReadsByName fun value => decode (tag, value)) (field : String) (style : TagStyle)
    (names : List String) :
    ReadsByName fun value => (tagged? field style names value).bind decode := by
  intro fields others hperm
  simp only [tagged?, Fields.lookup_perm hperm]
  split
  · next value _ =>
    cases tag? style names value with
    | none => rfl
    | some tag => exact h tag (hperm.filter _)
  · rfl

theorem sortedItems_eq_map (items : List Json) : sortedItems items = items.map sorted := by
  induction items with
  | nil => rw [sortedItems, List.map_nil]
  | cons item rest ih => rw [sortedItems, ih, List.map_cons]

theorem sortedFields_eq_map (fields : List (String × Json)) :
    sortedFields fields = fields.map fun field => (field.1, field.2.sorted) := by
  induction fields with
  | nil => rw [sortedFields, List.map_nil]
  | cons field rest ih => rw [sortedFields, ih, List.map_cons]

/-- **Of a sorted object is read what is read of one that is only sorted inside.** -/
theorem ReadsByName.sorted {α : Type} {decode : Json → Option α} (h : ReadsByName decode)
    {fields : List (String × Json)} (hnames : (fields.map Prod.fst).Nodup) :
    decode (object fields).sorted = decode (object (sortedFields fields)) := by
  have hinside : ((sortedFields fields).map Prod.fst).Nodup := by
    rwa [sortedFields_eq_map, List.map_map, Function.comp_def]
  rw [Json.sorted]
  exact h (Fields.ofEntries_perm hinside)

/-! ## 2. Leaves -/

/-- A list is read back if its items are. -/
theorem mapM_map {α : Type} {encode : α → Json} {decode : Json → Option α}
    (h : ∀ item, decode (encode item) = some item) (items : List α) :
    (items.map encode).mapM decode = some items := by
  induction items with
  | nil => rfl
  | cons item rest ih =>
    rw [List.map_cons, List.mapM_cons, h, ih]
    rfl

/-- A word of sixty-four bits is read back. -/
theorem word64?_nat (n : UInt64) : word64? (nat n.toNat) = some n := by
  have hlt : n.toNat < Nat.pow 2 64 := n.toNat_lt
  have hnat : natBelow? (Nat.pow 2 64) (nat n.toNat) = some n.toNat := if_pos hlt
  rw [word64?, hnat, Option.map_some, Nat.toUInt64_eq, UInt64.ofNat_toNat]

/-- A finite double is read back. -/
theorem double?_ofDouble {d : BinaryFloat.Double} (h : d.isFinite = true) :
    double? (ofDouble d) = some d := by
  rw [ofDouble, if_pos h]
  rfl

/-- So is one that may be missing, since a finite double is not written as nothing. -/
theorem optional?_ofDouble {d : BinaryFloat.Double} (h : d.isFinite = true) :
    optional? double? (ofDouble d) = some (some d) := by
  rw [ofDouble, if_pos h]
  rfl

/-- There is nothing to be sorted in a double. -/
theorem sorted_ofDouble (d : BinaryFloat.Double) : (ofDouble d).sorted = ofDouble d := by
  unfold ofDouble
  split <;> rw [sorted] <;> nofun

end Json

theorem BuildTarget.ofJson?_toJson (target : BuildTarget) :
    ofJson? target.toJson = some target := by
  cases target <;> rfl

/-! ## 3. Shader sets -/

namespace ShaderSource

theorem readsByName : Json.ReadsByName ofJson? := by
  intro fields others h
  simp only [ofJson?, Json.record?_perm h]

/-- **A source is read back.** -/
theorem ofJson?_sorted (source : ShaderSource) : ofJson? source.toJson.sorted = some source := by
  obtain ⟨name, vertex, fragment⟩ := source
  have hnames : ((("name", Json.string name) :: Json.presentField "vertex" .string vertex ++
      Json.presentField "fragment" .string fragment).map Prod.fst).Nodup := by
    cases vertex <;> cases fragment <;> simp [Json.presentField]
  rw [toJson, readsByName.sorted hnames]
  cases vertex <;> cases fragment <;> rfl

end ShaderSource

namespace Annotation

theorem readsByName : Json.ReadsByName ofJson? := by
  refine Json.readsByName_tagged? (fun tag fields others h => ?_) "kind" .nameOrPlace names
  by_cases hcontrol : tag = "control"
  · subst hcontrol
    simp only [ofTagged?, Json.record?_perm h]
  · simp only [ofTagged?, Json.noFields?]

/-- **An annotation is read back.** -/
theorem ofJson?_sorted (note : Annotation) : ofJson? note.toJson.sorted = some note := by
  cases note with
  | control kind parameters =>
    rw [toJson, readsByName.sorted (by simp)]
    cases parameters <;> rfl
  | _ => rfl

end Annotation

namespace VariableKind

theorem readsByName : Json.ReadsByName ofJson? := by
  refine Json.readsByName_tagged? (fun tag fields others h => ?_) "kind" .nameOrPlace names
  by_cases hconst : tag = "const"
  · subst hconst
    simp only [ofTagged?, Json.record?_perm h]
  by_cases huniform : tag = "uniform"
  · subst huniform
    simp only [ofTagged?, Json.record?_perm h]
  by_cases hregular : tag = "regular"
  · subst hregular
    rfl
  simp [ofTagged?, hconst, huniform, hregular]

/-- The fields that a kind adds are read back alone. -/
theorem ofJson?_fields (kind : VariableKind) :
    ofJson? (.object (Json.sortedFields kind.fields)) = some kind := by
  cases kind with
  | const value => rfl
  | regular => rfl
  | uniform annotations =>
    have hread : ofJson? (.object (Json.sortedFields (uniform annotations).fields)) =
        ((Json.sortedItems (annotations.map Annotation.toJson)).mapM Annotation.ofJson?).bind
          fun items => some (uniform items) := rfl
    rw [hread, Json.sortedItems_eq_map, List.map_map, Function.comp_def,
      Json.mapM_map Annotation.ofJson?_sorted, Option.bind_some]

end VariableKind

namespace ShaderVariable

theorem readsByName : Json.ReadsByName ofJson? := by
  intro fields others h
  simp only [ofJson?, Json.record?_perm h, VariableKind.readsByName (h.filter _)]

/-- No field is there twice: none of those that a kind adds is one that its variable claims. -/
theorem nodup_names (variable_ : ShaderVariable) : ((variable_.kind.fields ++
    [("name", Json.string variable_.name), ("type-name", .string variable_.typeName),
      ("active", .bool variable_.active)] ++
    Json.presentField "length" (fun n => Json.nat n.toNat) variable_.length ++
    Json.presentField "minified-name" .string variable_.minifiedName).map Prod.fst).Nodup := by
  obtain ⟨kind, name, typeName, active, length, minifiedName⟩ := variable_
  cases kind <;> cases length <;> cases minifiedName <;>
    simp [VariableKind.fields, Json.presentField]

/-- **A variable is read back.** -/
theorem ofJson?_sorted (variable_ : ShaderVariable) :
    ofJson? variable_.toJson.sorted = some variable_ := by
  rw [toJson, readsByName.sorted variable_.nodup_names]
  obtain ⟨kind, name, typeName, active, length, minifiedName⟩ := variable_
  have hread : ofJson? (.object (Json.sortedFields (kind.fields ++
      [("name", .string name), ("type-name", .string typeName), ("active", .bool active)] ++
      Json.presentField "length" (fun n => Json.nat n.toNat) length ++
      Json.presentField "minified-name" .string minifiedName))) =
      (VariableKind.ofJson? (.object (Json.sortedFields kind.fields))).bind fun kind =>
        (length.elim (some none) fun n => (Json.word64? (Json.nat n.toNat)).map some).bind
          fun length => some ⟨kind, name, typeName, active, length, minifiedName⟩ := by
    cases kind <;> cases length <;> cases minifiedName <;> rfl
  have hlength : (length.elim (some none) fun n => (Json.word64? (Json.nat n.toNat)).map some) =
      some length := by
    cases length with
    | none => rfl
    | some n => rw [Option.elim_some, Json.word64?_nat, Option.map_some]
  rw [hread, VariableKind.ofJson?_fields, Option.bind_some, hlength, Option.bind_some]

end ShaderVariable

/-- **A set is read back**, whatever the tag behind it says. -/
theorem ShaderSet.ofJson?_fields (set : ShaderSet) (name : String) :
    ofJson? (.object (Json.sortedFields (set.fields ++ [("event", .string name)]))) =
      some set := by
  obtain ⟨target, sources, declared⟩ := set
  have hread : ofJson? (.object (Json.sortedFields (fields ⟨target, sources, declared⟩ ++
      [("event", .string name)]))) =
      (BuildTarget.ofJson? target.toJson).bind fun target =>
        ((Json.sortedItems (sources.map ShaderSource.toJson)).mapM ShaderSource.ofJson?).bind
          fun sources =>
            ((Json.sortedItems (declared.map ShaderVariable.toJson)).mapM
              ShaderVariable.ofJson?).bind fun declared => some ⟨target, sources, declared⟩ := rfl
  rw [hread, BuildTarget.ofJson?_toJson, Option.bind_some, Json.sortedItems_eq_map, List.map_map,
    Function.comp_def, Json.mapM_map ShaderSource.ofJson?_sorted, Option.bind_some,
    Json.sortedItems_eq_map, List.map_map, Function.comp_def,
    Json.mapM_map ShaderVariable.ofJson?_sorted, Option.bind_some]

/-! ## 4. Events -/

namespace Event

/-- Durations are finite. -/
def IsFinite : Event → Prop
  | buildEnded _ _ (some duration) => duration.isFinite = true
  | runFinished duration => duration.isFinite = true
  | _ => True

theorem readsByName (kind : EventKind) : Json.ReadsByName (ofJson? kind) := by
  intro fields others h
  cases kind <;> simp only [ofJson?, ShaderSet.ofJson?, Json.record?_perm h]

/-- No payload has a field twice, nor one with the name of the tag. -/
theorem nodup_names (event : Event) :
    ((event.fields ++ [("event", Json.string event.kind.name)]).map Prod.fst).Nodup := by
  rw [List.map_append]
  cases event <;> simp [fields, ShaderSet.fields]

/-- **A payload is read back**, whatever the tag behind it says. -/
theorem ofJson?_fields {event : Event} (h : event.IsFinite) (name : String) :
    ofJson? event.kind (.object (Json.sortedFields (event.fields ++ [("event", .string name)]))) =
      some event := by
  cases event with
  | buildStarted target => cases target <;> rfl
  | buildEnded target successful duration =>
    cases duration with
    | none => cases target <;> rfl
    | some duration =>
      have hread : ofJson? .buildEnded (.object (Json.sortedFields (fields (.buildEnded target
          successful (some duration)) ++ [("event", .string name)]))) =
          (BuildTarget.ofJson? target.toJson).bind fun target =>
            (Json.optional? Json.double? (Json.ofDouble duration).sorted).bind fun duration =>
              some (buildEnded target successful duration) := rfl
      exact hread.trans (by rw [BuildTarget.ofJson?_toJson, Option.bind_some,
        Json.sorted_ofDouble, Json.optional?_ofDouble h, Option.bind_some])
  | libraryCompiled path => rfl
  | executableCompiled path size =>
    have hread : ofJson? .executableCompiled (.object (Json.sortedFields
        (fields (.executableCompiled path size) ++ [("event", .string name)]))) =
        (Json.word64? (Json.nat size.toNat)).bind fun size =>
          some (executableCompiled path size) := rfl
    exact hread.trans (by rw [Json.word64?_nat, Option.bind_some])
  | exported path => rfl
  | runFinished duration =>
    have hread : ofJson? .runFinished (.object (Json.sortedFields (fields (.runFinished duration) ++
        [("event", .string name)]))) =
        (Json.double? (Json.ofDouble duration).sorted).bind fun duration =>
          some (runFinished duration) := rfl
    exact hread.trans (by rw [Json.sorted_ofDouble, Json.double?_ofDouble h, Option.bind_some])
  | error message => rfl
  | shaderSetProvided set =>
    have hread : ofJson? .shaderSetProvided (.object (Json.sortedFields
        (fields (.shaderSetProvided set) ++ [("event", .string name)]))) =
        (ShaderSet.ofJson? (.object (Json.sortedFields
          (set.fields ++ [("event", .string name)])))).map shaderSetProvided := rfl
    exact hread.trans (by rw [ShaderSet.ofJson?_fields, Option.map_some])

/-- **A frame is read as the event that it was made from.** -/
theorem ofJson?_frame {event : Event} (h : event.IsFinite) :
    ofJson? event.kind event.frame = some event :=
  (Json.ReadsByName.sorted (readsByName event.kind) event.nodup_names).trans (ofJson?_fields h _)

/-- **A frame names its kind**: the tag was added last. -/
theorem field?_frame (event : Event) :
    event.frame.field? "event" = some (.string event.kind.name) := by
  rw [frame, Json.sorted, Json.field?, Json.Fields.lookup_ofEntries, Json.sortedFields_eq_map,
    List.map_append, List.reverse_append]
  rfl

end Event

/-! ## 5. Dispatching -/

namespace Registration

variable {σ : Type}

/-- The same registration, where every call is noted: in which place the handler was registered, and
the event that it was given if it is for events. -/
def noted : Registration σ → Nat → Registration (List (Nat × Option Event) × σ)
  | raw name handler, place => .raw name fun frame (log, state) =>
    ((handler frame state).1, log ++ [(place, none)], (handler frame state).2)
  | typed kind handle, place => .typed kind fun event (log, state) =>
    ((handle event state).1, log ++ [(place, some event)], (handle event state).2)

theorem name_noted (registration : Registration σ) (place : Nat) :
    (registration.noted place).name = registration.name := by
  cases registration <;> rfl

end Registration

/-- Registrations whose calls are noted, in the places they have. -/
def notedAll {σ : Type} (registrations : List (Registration σ)) :
    List (Registration (List (Nat × Option Event) × σ)) :=
  registrations.mapIdx fun place registration => registration.noted place

section Dispatch

variable {σ : Type} {event : Event} {back : List (Registration σ)}

/-- **A frame goes to the handler that was registered last for its kind.** -/
theorem HandlerTable.dispatch_frame (hfinite : event.IsFinite) (front : List (Registration σ))
    (handle : Event → σ → Bool × σ)
    (hlast : ∀ registration ∈ back, registration.name ≠ event.kind.name) (state : σ) :
    (ofRegistrations (front ++ .typed event.kind handle :: back)).dispatch event.frame state =
      handle event state := by
  have hname : (event.frame.field? "event").bind Json.string? = some event.kind.name := by
    rw [event.field?_frame]
    rfl
  have hothers : (back.reverse.find? fun registration => registration.name == event.kind.name) =
      none := by
    rw [List.find?_eq_none]
    intro registration hregistration hsame
    exact hlast registration (List.mem_reverse.mp hregistration) (eq_of_beq hsame)
  have hfound : ((front ++ .typed event.kind handle :: back).reverse.find?
      fun registration => registration.name == event.kind.name) =
      some (.typed event.kind handle) := by
    rw [List.reverse_append, List.reverse_cons, List.find?_append, List.find?_append, hothers]
    simp [Registration.name]
  have hcall : callOf? (front ++ .typed event.kind handle :: back) event.frame =
      some (handle event) := by
    unfold callOf?
    simp only [hname, hfound, bind, Option.bind_some, Registration.call?,
      Event.ofJson?_frame hfinite, Option.map_some]
  rw [dispatch_eq, hcall]

/-- The places of registrations in front of and behind one of them. -/
theorem notedAll_append (front : List (Registration σ)) (registration : Registration σ)
    (back : List (Registration σ)) :
    ∃ back', notedAll (front ++ registration :: back) =
      notedAll front ++ registration.noted front.length :: back' ∧
        ∀ other ∈ back', ∃ registration ∈ back, other.name = registration.name := by
  refine ⟨_, by rw [notedAll, List.mapIdx_append, List.mapIdx_cons, Nat.zero_add]; rfl, ?_⟩
  intro other hother
  obtain ⟨place, hplace, rfl⟩ := List.mem_mapIdx.mp hother
  exact ⟨back[place], List.getElem_mem hplace, Registration.name_noted _ _⟩

/-- **An event goes through a frame to its handler.**  For every event with finite durations, paths
and all other strings being any texts, and for all registrations of which the last one under the
name of its kind is for events of this kind:

* its frame is an object, which names the kind in the field `event`, and is read as the event;
* dispatching the frame does what that handler does with the event, whatever the state is;
* if all calls are noted, exactly one is: of that handler, with the event that the frame was made
  from. -/
theorem Event.frame_dispatched (hfinite : event.IsFinite) (front : List (Registration σ))
    (handle : Event → σ → Bool × σ)
    (hlast : ∀ registration ∈ back, registration.name ≠ event.kind.name) :
    let registrations := front ++ .typed event.kind handle :: back
    (∃ fields, event.frame = .object fields) ∧
      event.frame.field? "event" = some (.string event.kind.name) ∧
      Event.ofJson? event.kind event.frame = some event ∧
      ∀ state,
        (HandlerTable.ofRegistrations registrations).dispatch event.frame state =
          handle event state ∧
        ∀ log, (HandlerTable.ofRegistrations (notedAll registrations)).dispatch event.frame
            (log, state) =
          ((handle event state).1, log ++ [(front.length, some event)],
            (handle event state).2) := by
  intro registrations
  refine ⟨⟨_, rfl⟩, event.field?_frame, Event.ofJson?_frame hfinite, fun state =>
    ⟨HandlerTable.dispatch_frame hfinite front handle hlast state, fun log => ?_⟩⟩
  obtain ⟨back', hnoted, hnames⟩ := notedAll_append front (.typed event.kind handle) back
  have hothers : ∀ other ∈ back', other.name ≠ event.kind.name := by
    intro other hother hsame
    obtain ⟨registration, hregistration, hname⟩ := hnames other hother
    exact hlast registration hregistration (hname ▸ hsame)
  rw [hnoted]
  exact HandlerTable.dispatch_frame hfinite (notedAll front) _ hothers (log, state)

end Dispatch

/-- Two handlers for the end of a build, one for whole frames and then one for events, and one for
something else. -/
def builders : List (Registration (List Event)) :=
  [.raw "build-ended" fun _ _ => (false, []),
    .typed .buildEnded fun event state => (true, state ++ [event]),
    .raw "run" fun _ state => (false, state)]

/-- A build that took one and a half seconds. -/
def builtQuickly : Event := .buildEnded .library true (some (.ofPattern 0x3FF8000000000000))

/-- It is the second handler that gets it. -/
theorem builtQuickly_dispatched :
    builtQuickly.IsFinite ∧
      (HandlerTable.ofRegistrations builders).dispatch builtQuickly.frame [] =
        (true, [builtQuickly]) ∧
      (HandlerTable.ofRegistrations (notedAll builders)).dispatch builtQuickly.frame ([], []) =
        (true, [(1, some builtQuickly)], [builtQuickly]) := by
  have hfinite : builtQuickly.IsFinite := by
    show BinaryFloat.Double.isFinite _ = true
    decide +kernel
  have hlast : ∀ registration ∈ [(Registration.raw "run" fun _ state => (false, state) :
      Registration (List Event))], registration.name ≠ builtQuickly.kind.name := by
    intro registration hregistration
    rw [List.mem_singleton.mp hregistration]
    decide
  obtain ⟨-, -, -, hdispatched⟩ := Event.frame_dispatched hfinite
    [.raw "build-ended" fun _ _ => (false, [])] (fun event state => (true, state ++ [event])) hlast
  exact ⟨hfinite, (hdispatched []).1, (hdispatched []).2 []⟩

end RenderSync
