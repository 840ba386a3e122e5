import Mathlib.Data.List.Induction
import Mathlib.Data.String.Basic
import PinFlow.Proofs.Run.Step

set_option autoImplicit false

/-!
# Command options

A payload lists options as an array of entries or as an object, and an option constant names one of
them. Both sides derive a key from the name, under which different names may meet: what is read is
the last option that is listed under the key. The keys of the other parts of a trigger are never
keys of options.
-/

namespace PinFlow

namespace Fields

variable {α : Type}

def Increasing (fields : Fields α) : Prop := fields.Pairwise fun a b => a.1 < b.1

theorem mem_insert {fields : Fields α} {key : String} {value : α} {entry : String × α}
    (h : entry ∈ insert fields key value) : entry = (key, value) ∨ entry ∈ fields := by
  induction fields with
  | nil => exact .inl (List.mem_singleton.1 h)
  | cons first rest ih =>
    obtain ⟨k, v⟩ := first
    rw [insert] at h
    split_ifs at h with hsame hbefore
    · simp only [List.mem_cons] at h ⊢
      tauto
    · simpa using h
    · rcases List.mem_cons.1 h with rfl | h
      · exact .inr List.mem_cons_self
      · exact (ih h).imp_right (List.mem_cons_of_mem _)

theorem Increasing.insert {fields : Fields α} (h : fields.Increasing) (key : String) (value : α) :
    (Fields.insert fields key value).Increasing := by
  induction fields with
  | nil => exact List.pairwise_singleton _ _
  | cons first rest ih =>
    obtain ⟨k, v⟩ := first
    obtain ⟨hfirst, hrest⟩ := List.pairwise_cons.1 h
    rw [Fields.insert]
    split_ifs with hsame hbefore
    · subst hsame
      exact List.pairwise_cons.2 ⟨hfirst, hrest⟩
    · refine List.pairwise_cons.2 ⟨?_, h⟩
      intro entry hentry
      rcases List.mem_cons.1 hentry with rfl | hentry
      · exact hbefore
      · exact hbefore.trans (hfirst entry hentry)
    · have hafter : k < key := lt_of_le_of_ne (not_lt.1 hbefore) (Ne.symm hsame)
      refine List.pairwise_cons.2 ⟨?_, ih hrest⟩
      intro entry hentry
      rcases mem_insert hentry with rfl | hentry
      · exact hafter
      · exact hfirst entry hentry

theorem increasing_ofEntries (entries : List (String × α)) : (ofEntries entries).Increasing := by
  unfold ofEntries
  refine List.foldlRecOn (motive := fun fields : Fields α => fields.Increasing) entries _
    List.Pairwise.nil ?_
  exact fun fields hfields entry _ => hfields.insert entry.1 entry.2

end Fields

namespace Trigger

def reservedKeys : List String :=
  ["user", "member", "channel", "guild", "message", "role", "emoji", "custom_id"]

/-- The options of a payload in the order in which they are listed: entries of an array in order, if
    they have a name, and entries of an object in code point order of their keys. -/
def listedOptions (payload : Value) : List (String × Value) :=
  match payload.field? "options" with
  | some (.array entries) => entries.filterMap fun entry =>
    match entry.field? "name" with
    | some (.string name) => some (name, (entry.field? "value").getD .null)
    | _ => none
  | some (.object fields) => fields.mergeSort fun a b => decide (a.1 ≤ b.1)
  | _ => []

def lastUnder (options : List (String × Value)) (key : String) : Option Value :=
  (options.filter fun entry => optionKey entry.1 = key).getLast?.map Prod.snd

/-- The options of the payload are written as every object is. -/
def WellKeyed (payload : Value) : Prop :=
  ∀ fields, payload.field? "options" = some (.object fields) → Fields.Increasing fields

def SameBesideOptions (payload payload' : Value) : Prop :=
  ∀ field, field ≠ "options" → payload'.field? field = payload.field? field

def entryOf (option : String × Value) : Value :=
  .object [("name", .string option.1), ("value", option.2)]

variable {payload payload' : Value} {key : String}

theorem optionKey_ne (name : String) (hkey : key ∈ reservedKeys) : optionKey name ≠ key := by
  have hfirst : (optionKey name).toList.head? = some 'o' := by
    simp [optionKey, String.toList_append]
  have hother : ∀ key ∈ reservedKeys, key.toList.head? ≠ some 'o' := by decide
  rintro rfl
  exact hother _ hkey hfirst

theorem get?_foldl_insertOption (options : List (String × Value)) (trigger : Trigger)
    (key : String) :
    Fields.get? (options.foldl insertOption trigger) key =
      (lastUnder options key).or (Fields.get? trigger key) := by
  induction options using List.reverseRecOn with
  | nil => rfl
  | append_singleton options option ih =>
    rw [List.foldl_append, List.foldl_cons, List.foldl_nil, insertOption, Fields.get?_insert, ih]
    unfold lastUnder
    by_cases hkey : optionKey option.1 = key
    · simp [List.filter_append, hkey]
    · simp [List.filter_append, hkey, Ne.symm hkey]

theorem lastUnder_reserved (options : List (String × Value)) (hkey : key ∈ reservedKeys) :
    lastUnder options key = none := by
  have hnone : (options.filter fun entry => optionKey entry.1 = key) = [] := by
    simp [optionKey_ne _ hkey]
  simp [lastUnder, hnone]

def objects (payload : Value) : Trigger :=
  let copied := copiedFields.foldl (fun trigger field => copy trigger field payload field) []
  match payload.field? "message" with
  | some message => messageFields.foldl (copyIfAbsent message) copied
  | none => copied

def addMark (event : EventKind) (payload : Value) (trigger : Trigger) : Trigger :=
  match event with
  | .buttonClick =>
    match (payload.field? "customId").or (payload.field? "custom_id") with
    | some v => Fields.insert trigger "custom_id" v
    | none => trigger
  | _ => trigger

theorem options_eq_listed (h : WellKeyed payload) :
    ((payload.field? "options").map options).getD [] = listedOptions payload := by
  unfold listedOptions
  cases hoptions : payload.field? "options" with
  | none => rfl
  | some v =>
    cases v with
    | array entries =>
      change entries.filterMap optionEntry? = entries.filterMap _
      congr 1
      funext entry
      unfold optionEntry?
      cases entry.field? "name" with
      | none => rfl
      | some name => cases name <;> rfl
    | object fields =>
      have hincreasing := h fields hoptions
      refine (List.mergeSort_of_pairwise ?_).symm
      exact hincreasing.imp fun hlt => decide_eq_true hlt.le
    | null => rfl
    | bool b => rfl
    | number n => rfl
    | string s => rfl

theorem ofPayload_eq (event : EventKind) (payload : Value) :
    ofPayload event payload = addMark event payload
      ((((payload.field? "options").map options).getD []).foldl insertOption
        (objects payload)) := by
  unfold ofPayload addMark objects
  cases payload.field? "options" <;> rfl

theorem get?_copy {trigger : Trigger} {field : String} (payload : Value) (source : String)
    (h : Fields.get? trigger key = none) (hne : key ≠ field) :
    Fields.get? (copy trigger field payload source) key = none := by
  unfold copy
  split
  · rw [Fields.get?_insert, if_neg hne, h]
  · exact h

theorem get?_objects (payload : Value) (hkey : key ∉ copiedFields) :
    Fields.get? (objects payload) key = none := by
  have hcopied : Fields.get?
      (copiedFields.foldl (fun trigger field => copy trigger field payload field) []) key =
        none := by
    refine List.foldlRecOn (motive := fun t : Trigger => Fields.get? t key = none) _ _ rfl ?_
    intro trigger htrigger field hfield
    exact get?_copy payload field htrigger fun h => hkey (h ▸ hfield)
  unfold objects
  dsimp only
  split
  · rename_i message _
    refine List.foldlRecOn (motive := fun t : Trigger => Fields.get? t key = none) _ _ hcopied ?_
    intro trigger htrigger entry hentry
    have hfilled : ∀ entry ∈ messageFields, entry.1 ∈ copiedFields := by decide
    unfold copyIfAbsent
    split_ifs
    · exact htrigger
    · exact get?_copy message entry.2 htrigger fun h => hkey (h ▸ hfilled entry hentry)
  · exact hcopied

theorem get?_addMark (event : EventKind) (payload : Value) (trigger : Trigger)
    (hkey : key ≠ "custom_id") :
    Fields.get? (addMark event payload trigger) key = Fields.get? trigger key := by
  unfold addMark
  split
  · split
    · rw [Fields.get?_insert, if_neg hkey]
    · rfl
  · rfl

theorem get?_addMark_congr (event : EventKind) (payload : Value) {trigger trigger' : Trigger}
    (h : Fields.get? trigger' key = Fields.get? trigger key) :
    Fields.get? (addMark event payload trigger') key =
      Fields.get? (addMark event payload trigger) key := by
  unfold addMark
  split
  · split
    · rw [Fields.get?_insert, Fields.get?_insert, h]
    · exact h
  · exact h

theorem objects_congr (h : SameBesideOptions payload payload') :
    objects payload' = objects payload := by
  have hcopied : copiedFields.foldl (fun trigger field => copy trigger field payload' field) [] =
      copiedFields.foldl (fun trigger field => copy trigger field payload field) [] := by
    apply List.foldl_ext
    intro trigger field hfield
    have hne : ∀ field ∈ copiedFields, field ≠ "options" := by decide
    simp only [copy, h field (hne field hfield)]
  unfold objects
  rw [hcopied, h "message" (by decide)]

theorem addMark_congr (h : SameBesideOptions payload payload') (event : EventKind) :
    addMark event payload' = addMark event payload := by
  funext trigger
  unfold addMark
  rw [h "customId" (by decide), h "custom_id" (by decide)]

theorem get?_ofPayload_option (event : EventKind) (h : WellKeyed payload) (name : String) :
    Fields.get? (ofPayload event payload) (optionKey name) =
      lastUnder (listedOptions payload) (optionKey name) := by
  have hmark : optionKey name ≠ "custom_id" := optionKey_ne name (by decide)
  have hobject : optionKey name ∉ copiedFields := by
    have hreserved : ∀ key ∈ copiedFields, key ∈ reservedKeys := by decide
    exact fun hmem => optionKey_ne name (hreserved _ hmem) rfl
  rw [ofPayload_eq, get?_addMark _ _ _ hmark, get?_foldl_insertOption, options_eq_listed h,
    get?_objects payload hobject, Option.or_none]

theorem get?_ofPayload_reserved (event : EventKind) (h : SameBesideOptions payload payload')
    (hkey : key ∈ reservedKeys) :
    Fields.get? (ofPayload event payload') key = Fields.get? (ofPayload event payload) key := by
  rw [ofPayload_eq, ofPayload_eq, addMark_congr h, objects_congr h]
  apply get?_addMark_congr
  rw [get?_foldl_insertOption, get?_foldl_insertOption, lastUnder_reserved _ hkey,
    lastUnder_reserved _ hkey]

theorem ofPayload_entries (event : EventKind) (h : SameBesideOptions payload payload')
    {fields : Fields Value} (hobject : payload.field? "options" = some (.object fields))
    (harray : payload'.field? "options" = some (.array (fields.map entryOf))) :
    ofPayload event payload' = ofPayload event payload := by
  have hentries : options (.array (fields.map entryOf)) = fields := by
    change (fields.map entryOf).filterMap optionEntry? = fields
    rw [List.filterMap_map]
    exact List.filterMap_some
  rw [ofPayload_eq, ofPayload_eq, addMark_congr h, objects_congr h, hobject, harray]
  simp only [Option.map_some, Option.getD_some, hentries]
  rfl

end Trigger

def Graph.FedByOption (g : Graph) (key : PinKey) (name : String) : Prop :=
  ∃ edge source, g.edgeFeeding? key.1 key.2 = some edge ∧ g.node? edge.source = some source ∧
    source.kind? = some (.pure (.constant .option)) ∧
    (source.configured? "name").or (source.configured? "optionName") = some (.string name)

theorem Graph.FedByOption.origin {g : Graph} {key : PinKey} {name : String}
    (h : g.FedByOption key name) :
    ∃ source handle, g.origin key = .constant source .option handle ∧
      ∀ trigger, constantValue trigger source .option handle =
        Fields.get? trigger (Trigger.optionKey name) := by
  obtain ⟨edge, source, hedge, hsource, hkind, hname⟩ := h
  refine ⟨source, edge.sourceHandle, ?_, fun trigger => ?_⟩
  · simp only [Graph.origin, hedge, hsource, Origin.ofOutput, hkind]
  · simp [constantValue, hname, Value.string?]

namespace Setup

variable {s : Setup}

theorem take_trigger (st : RunState) (step : Step) : (s.take st step).trigger = st.trigger := by
  cases hreading : step.isReading with
  | true => exact (take_advance (s := s) st hreading).frame.trigger
  | false =>
    cases step with
    | read node handle => cases hreading
    | evaluate node kind => cases hreading
    | _ => rfl

theorem Leads.trigger {st st' : RunState} (h : s.Leads st st') : st'.trigger = st.trigger := by
  obtain ⟨steps, -, rfl⟩ := h
  exact List.foldlRecOn (motive := fun st' : RunState => st'.trigger = st.trigger) steps s.take rfl
    fun st' hst' step _ => (take_trigger st' step).trans hst'

theorem readPin_of_option {trigger : Trigger} {st : RunState}
    (hst : s.Leads (RunState.fresh trigger) st) {node : Node}
    (hnode : s.graph.node? node.id = some node) {handle : Handle} {name : String}
    (hfed : s.graph.FedByOption (node.id, handle) name) :
    (s.readPin node handle st).1 = Fields.get? trigger (Trigger.optionKey name) := by
  obtain ⟨source, out, horigin, hvalue⟩ := hfed.origin
  have hunfed : ∀ source kind, s.graph.origin (node.id, handle) ≠ .computed source kind := by
    intro source kind hcomputed
    rw [horigin] at hcomputed
    cases hcomputed
  have hsane : Sane s.graph st := Reached.sane ⟨trigger, hst⟩
  rw [readPin_of_unfed hsane hnode hunfed,
    s.graph.reference_eq _ _ (Graph.determined_of_unfed hunfed).acyclic, horigin, hst.trigger]
  exact hvalue trigger

/-- Options arrive as they were listed. An input that an option constant feeds has the value of the
    last option that is listed under the key of the name; it does not matter whether options are
    listed in an object or in the array of its entries, and no option touches anything else. -/
theorem options_travel_intact (event : EventKind) (payload : Value)
    (hkeyed : Trigger.WellKeyed payload) :
    (∀ (s : Setup) (st : RunState) (node : Node) (handle : Handle) (name : String),
      s.Leads (RunState.fresh (Trigger.ofPayload event payload)) st →
      s.graph.node? node.id = some node → s.graph.FedByOption (node.id, handle) name →
      (s.readPin node handle st).1 =
        Trigger.lastUnder (Trigger.listedOptions payload) (Trigger.optionKey name)) ∧
    (∀ fields payload', Trigger.SameBesideOptions payload payload' →
      payload.field? "options" = some (.object fields) →
      payload'.field? "options" = some (.array (fields.map Trigger.entryOf)) →
      Trigger.ofPayload event payload' = Trigger.ofPayload event payload) ∧
    ∀ payload', Trigger.SameBesideOptions payload payload' → ∀ key ∈ Trigger.reservedKeys,
      Fields.get? (Trigger.ofPayload event payload') key =
        Fields.get? (Trigger.ofPayload event payload) key := by
  refine ⟨?_, ?_, ?_⟩
  · intro s st node handle name hst hnode hfed
    rw [readPin_of_option hst hnode hfed, Trigger.get?_ofPayload_option event hkeyed]
  · intro fields payload' hsame hobject harray
    exact Trigger.ofPayload_entries event hsame hobject harray
  · intro payload' hsame key hkey
    exact Trigger.get?_ofPayload_reserved event hsame hkey

-- Two names have the same key, because the capital with the dot becomes two characters.
def dottedOptions : Fields Value := .ofEntries [("İ", .int 1), ("I_", .int 2)]

def dottedPayload : Value := .object [("options", .object dottedOptions), ("user", .string "ann")]

def dotted : Setup where
  graph := .ofParts
    [{ Node.bare "pick" "constant-option" with
        dataOutputs := [.required "value" .string]
        config := [("optionName", .string "i ")] },
      Graph.sayNode]
    [⟨none, "pick", "value", "say", "text", .data⟩]
  limits := ⟨0, .zero⟩
  dice _ := 0

theorem options_travel_intact_dotted :
    Trigger.WellKeyed dottedPayload ∧ dotted.graph.FedByOption ("say", "text") "i " ∧
      (dotted.readPin Graph.sayNode "text"
        (RunState.fresh (Trigger.ofPayload .slashCommand dottedPayload))).1 = some (.int 1) ∧
      Trigger.ofPayload .slashCommand (.object
          [("options", .array (dottedOptions.map Trigger.entryOf)), ("user", .string "ann")]) =
        Trigger.ofPayload .slashCommand dottedPayload := by
  have hkeyed : Trigger.WellKeyed dottedPayload := by
    rintro fields ⟨⟩
    exact Fields.increasing_ofEntries _
  have hfed : dotted.graph.FedByOption ("say", "text") "i " :=
    ⟨_, _, rfl, rfl, rfl, rfl⟩
  have hsame : Trigger.SameBesideOptions dottedPayload (.object
      [("options", .array (dottedOptions.map Trigger.entryOf)), ("user", .string "ann")]) := by
    intro field hfield
    simp [dottedPayload, Value.field?, Fields.get?_cons, hfield]
  obtain ⟨hread, hentries, -⟩ := options_travel_intact .slashCommand dottedPayload hkeyed
  refine ⟨hkeyed, hfed, ?_, hentries dottedOptions _ hsame rfl rfl⟩
  rw [hread dotted _ Graph.sayNode "text" "i " (.refl _) rfl hfed, ← Trigger.options_eq_listed hkeyed]
  rfl

end Setup

end PinFlow
