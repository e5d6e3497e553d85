import Chip8.Proofs.Acceptance

namespace Chip8

namespace KeyMap

def names (keyMap : KeyMap) : List Text := keyMap.map Prod.fst

variable {keyMap : KeyMap} {name other : Text} {number : Int}

theorem mem_names_iff : name ∈ keyMap.names ↔ ∃ number, keyMap.get? name = some number := by
  rw [names, get?]
  induction keyMap with
  | nil => simp
  | cons entry rest ih =>
      rw [List.map_cons, List.mem_cons, ih, List.lookup_cons]
      by_cases same : name = entry.1
      · simp [same]
      · simp [same, beq_eq_false_iff_ne.mpr same]

theorem mem_names_insert :
    other ∈ (keyMap.insert name number).names ↔ other = name ∨ other ∈ keyMap.names := by
  rw [mem_names_iff, mem_names_iff, get?_insert]
  by_cases same : other = name <;> simp [same]

theorem nodup_names_insert (distinct : keyMap.names.Nodup) :
    (keyMap.insert name number).names.Nodup := by
  induction keyMap with
  | nil => simp [insert, names]
  | cons entry rest ih =>
      obtain ⟨first, old⟩ := entry
      obtain ⟨fresh, others⟩ := List.nodup_cons.mp distinct
      rw [insert]
      split
      next same => exact same ▸ distinct
      next apart =>
          refine List.nodup_cons.mpr ⟨?_, ih others⟩
          intro again
          cases mem_names_insert.mp again with
          | inl same => exact apart same
          | inr before => exact fresh before

theorem get?_of_mem (distinct : keyMap.names.Nodup) (member : (name, number) ∈ keyMap) :
    keyMap.get? name = some number := by
  induction keyMap with
  | nil => cases member
  | cons entry rest ih =>
      obtain ⟨fresh, others⟩ := List.nodup_cons.mp distinct
      rw [get?, List.lookup_cons]
      cases List.mem_cons.mp member with
      | inl here => simp [← here]
      | inr later =>
          have apart : name ≠ entry.1 := by
            rintro rfl
            exact fresh (List.mem_map.mpr ⟨_, later, rfl⟩)
          rw [beq_eq_false_iff_ne.mpr apart]
          exact ih others later

end KeyMap

namespace Config

open Yaml

variable {entries others keys : List (Scalar × Value)} {config : Config}

def lastFor (keys : List (Scalar × Value)) (name : Text) : Option Value :=
  (keys.reverse.find? fun entry => (Value.scalar entry.1).text? = some name).map Prod.snd

structure Overlays (keys : List (Scalar × Value)) (usual keyMap : KeyMap) : Prop where
  distinct : keyMap.names.Nodup
  names : ∀ name, name ∈ keyMap.names ↔
    name ∈ usual.names ∨ ∃ entry ∈ keys, (Value.scalar entry.1).text? = some name
  last : ∀ name value, lastFor keys name = some value →
    ∃ number, Writes value number ∧ keyMap.get? name = some number
  others : ∀ name, lastFor keys name = none → keyMap.get? name = usual.get? name

theorem lastFor_cons (entry : Scalar × Value) (keys : List (Scalar × Value)) (name : Text) :
    lastFor (entry :: keys) name = (lastFor keys name).or
      (if (Value.scalar entry.1).text? = some name then some entry.2 else none) := by
  rw [lastFor, lastFor, List.reverse_cons, List.find?_append, Option.map_or]
  by_cases here : (Value.scalar entry.1).text? = some name <;> simp [here]

theorem lastFor_eq_none {name : Text} : lastFor keys name = none ↔
    ∀ entry ∈ keys, (Value.scalar entry.1).text? ≠ some name := by
  simp [lastFor]

theorem shown_eq_ok {value : Value} {text : Text} : shown value = .ok text ↔
    value.text? = some text := by
  rw [shown]
  cases value.text? <;> simp

theorem overlays_nil {usual : KeyMap} (distinct : usual.names.Nodup) :
    Overlays [] usual usual where
  distinct := distinct
  names := by simp
  last := nofun
  others := fun _ _ => rfl

/-- One more entry in front: it counts unless a later one has its name. -/
theorem Overlays.cons {name : Scalar} {value : Value} {shownName : Text} {number : Int}
    {usual keyMap : KeyMap} (overlays : Overlays keys (usual.insert shownName number) keyMap)
    (named : (Value.scalar name).text? = some shownName) (writes : Writes value number) :
    Overlays ((name, value) :: keys) usual keyMap where
  distinct := overlays.distinct
  names := by
    intro other
    simp only [overlays.names, KeyMap.mem_names_insert, List.mem_cons, exists_eq_or_imp, named,
      Option.some_inj]
    grind
  last := by
    intro other counted found
    rw [lastFor_cons] at found
    cases later : lastFor keys other with
    | some value' =>
        rw [later, Option.some_or] at found
        exact overlays.last other counted (later.trans found)
    | none =>
        rw [later, Option.none_or, named] at found
        have kept := overlays.others other later
        split at found
        next same =>
            cases found
            refine ⟨number, writes, ?_⟩
            rw [kept, KeyMap.get?_insert, if_pos (Option.some.inj same).symm]
        next => cases found
  others := by
    intro other unnamed
    rw [lastFor_cons, Option.or_eq_none_iff, named] at unnamed
    obtain ⟨later, differs⟩ := unnamed
    have apart : other ≠ shownName := by
      rintro rfl
      simp at differs
    rw [overlays.others other later, KeyMap.get?_insert, if_neg apart]

theorem addKeys_overlays {usual keyMap : KeyMap} (distinct : usual.names.Nodup)
    (read : addKeys usual keys = .ok keyMap) : Overlays keys usual keyMap := by
  -- Each entry changes the map that the later ones are added to.
  induction keys generalizing usual with
  | nil =>
      cases read
      exact overlays_nil distinct
  | cons entry rest ih =>
      obtain ⟨⟨shownName, number⟩, found, later⟩ := bind_eq_ok.mp read
      obtain ⟨written, named, -⟩ := key_eq_ok found
      have overlays := ih (KeyMap.nodup_names_insert distinct) later
      exact overlays.cons (shown_eq_ok.mp named) (integer_eq_ok.mp written)

def Unlike (keys : List (Scalar × Value)) : Prop :=
  keys.Pairwise fun first second => (Value.scalar first.1).text? ≠ (Value.scalar second.1).text?

/-- Where no two names are shown alike, it makes no difference which entry is the last one. -/
theorem lastFor_eq_some (unlike : Unlike keys) {name : Text} {value : Value} :
    lastFor keys name = some value ↔
      ∃ part, (part, value) ∈ keys ∧ (Value.scalar part).text? = some name := by
  induction keys with
  | nil => simp [lastFor]
  | cons entry rest ih =>
      obtain ⟨fresh, others⟩ := List.pairwise_cons.mp unlike
      rw [lastFor_cons, Option.or_eq_some_iff, ih others, lastFor_eq_none]
      constructor
      · rintro (⟨part, member, shown⟩ | ⟨-, counted⟩)
        · exact ⟨part, List.mem_cons_of_mem entry member, shown⟩
        · split at counted
          next shown =>
              cases counted
              exact ⟨entry.1, List.mem_cons_self, shown⟩
          next => cases counted
      · rintro ⟨part, member, shown⟩
        cases List.mem_cons.mp member with
        | inl here =>
            subst here
            refine .inr ⟨?_, if_pos shown⟩
            intro other later again
            exact fresh other later (shown.trans again.symm)
        | inr later => exact .inl ⟨part, later, shown⟩

theorem lastFor_perm (unlike : Unlike keys) (permuted : keys.Perm others) (name : Text) :
    lastFor others name = lastFor keys name := by
  have unlike' : Unlike others := permuted.pairwise unlike fun differs => differs.symm
  apply Option.ext
  intro value
  simp only [lastFor_eq_some unlike, lastFor_eq_some unlike', permuted.mem_iff]

theorem Overlays.get?_congr {usual first second : KeyMap} (one : Overlays keys usual first)
    (other : Overlays others usual second) {name : Text}
    (same : lastFor others name = lastFor keys name) : second.get? name = first.get? name := by
  cases counted : lastFor keys name with
  | none => rw [one.others name counted, other.others name (same.trans counted)]
  | some value =>
      obtain ⟨number, writes, found⟩ := one.last name value counted
      obtain ⟨again, writes', found'⟩ := other.last name value (same.trans counted)
      cases (integer_of_writes writes).symm.trans (integer_of_writes writes')
      rw [found, found']

def keyEntries (entries : List (Scalar × Value)) : List (Scalar × Value) :=
  match Value.field? entries "key_map" with
  | some value => value.entries
  | none => []

theorem layer_of_field {value inner : Value} {name : Text}
    (found : Value.field? value.entries name = some inner) : value.unfold = .map value.entries := by
  rw [Value.entries] at found ⊢
  split at found
  next entries layer => rw [layer]
  next => cases found

theorem keyEntries_of_field {value : Value}
    (found : Value.field? entries "key_map" = some value) : keyEntries entries = value.entries := by
  rw [keyEntries, found]

theorem readKeyMap_of_layer {value : Value} (layer : value.unfold = .map keys) :
    readKeyMap (some value) = addKeys KeyMap.default keys := by
  rw [readKeyMap]
  split
  next empty =>
      have none : keys = [] := by
        rw [← entries_of_layer layer]
        exact entries_of_empty (by simpa using empty)
      rw [none]
      rfl
  next => rw [layer]

theorem addKeys_of_readKeyMap {keyMap : KeyMap}
    (read : readKeyMap (Value.field? entries "key_map") = .ok keyMap) :
    addKeys KeyMap.default (keyEntries entries) = .ok keyMap := by
  cases found : Value.field? entries "key_map" with
  | none =>
      rw [found] at read
      rw [keyEntries, found]
      exact read
  | some value =>
      rw [found, readKeyMap] at read
      rw [keyEntries_of_field found]
      split at read
      next empty =>
          rw [entries_of_empty (by simpa using empty)]
          exact read
      next =>
          split at read
          next keys layer => rw [entries_of_layer layer]; exact read
          next => cases read

def otherNames : List Text := "scale" :: "frame_interval_ms" :: textNames

def settingNames : List Text := "key_map" :: otherNames

theorem integerField_congr {name : Text}
    (same : Value.field? entries name = Value.field? others name) (usual : Int) :
    integerField entries name usual = integerField others name usual := by
  rw [integerField, integerField, same]

theorem textField_congr {name : Text}
    (same : Value.field? entries name = Value.field? others name) (usual : Text) :
    textField entries name usual = textField others name usual := by
  rw [textField, textField, same]

theorem Sets.withKeyMap {keyMap : KeyMap} (sets : Sets entries config)
    (same : ∀ name ∈ otherNames, Value.field? others name = Value.field? entries name)
    (keys : readKeyMap (Value.field? others "key_map") = .ok keyMap) :
    Sets others { config with keyMap := keyMap } where
  keyMap := keys
  scale := (integerField_congr (same "scale" (by decide)) _).trans sets.scale
  frameInterval :=
    (integerField_congr (same "frame_interval_ms" (by decide)) _).trans sets.frameInterval
  positive := sets.positive
  foreground := (textField_congr (same "foreground" (by decide)) _).trans sets.foreground
  background := (textField_congr (same "background" (by decide)) _).trans sets.background
  windowTitle := (textField_congr (same "window_title" (by decide)) _).trans sets.windowTitle
  quitKey := (textField_congr (same "quit_key" (by decide)) _).trans sets.quitKey

theorem Sets.overlays (sets : Sets entries config) :
    Overlays (keyEntries entries) KeyMap.default config.keyMap :=
  addKeys_overlays (by decide) (addKeys_of_readKeyMap sets.keyMap)

theorem Overlays.onKeypad {keyMap : KeyMap} (overlays : Overlays keys KeyMap.default keyMap)
    (valid : keyMap.OnKeypad) : ∀ pair ∈ keyMap, 0 ≤ pair.2 ∧ pair.2 ≤ 15 := by
  intro (name, number) member
  have range := valid name number (KeyMap.get?_of_mem overlays.distinct member)
  omega

def Given (entries : List (Scalar × Value)) (name : Text) (usual number : Int) : Prop :=
  match Value.field? entries name with
  | some value => Writes value number
  | none => number = usual

theorem given_of_integerField {name : Text} {usual number : Int}
    (read : integerField entries name usual = .ok number) : Given entries name usual number := by
  rw [integerField] at read
  rw [Given]
  cases found : Value.field? entries name with
  | none =>
      rw [found] at read
      exact (Except.ok.inj read).symm
  | some value =>
      rw [found] at read
      exact integer_eq_ok.mp read

/-- The second key map has the entries of the first one in another order. -/
def Reordered (entries others : List (Scalar × Value)) : Prop :=
  ∃ first second keys permuted,
    Value.field? entries "key_map" = some first ∧ first.unfold = .map keys ∧
    Value.field? others "key_map" = some second ∧ second.unfold = .map permuted ∧
    keys.Perm permuted

theorem Reordered.keyEntries (reordered : Reordered entries others) :
    (keyEntries entries).Perm (keyEntries others) := by
  obtain ⟨first, second, keys, permuted, found, layer, found', layer', perm⟩ := reordered
  rw [keyEntries_of_field found, keyEntries_of_field found', entries_of_layer layer,
    entries_of_layer layer']
  exact perm

theorem addKeys_isOk_iff (usual : KeyMap) (keys : List (Scalar × Value)) :
    (∃ keyMap, addKeys usual keys = .ok keyMap) ↔ UsableKeys keys := by
  have held : ∀ entry ∈ keys, (Value.map keys).Holds entry.1 ∧ Inside (.map keys) entry.2 := by
    intro entry member
    exact ⟨.key member, fun part holds => .entry member holds⟩
  exact (addKeys_reads held usual).accepts

theorem Reordered.readKeyMap (reordered : Reordered entries others) {keyMap : KeyMap}
    (read : readKeyMap (Value.field? entries "key_map") = .ok keyMap) :
    ∃ other, Config.readKeyMap (Value.field? others "key_map") = .ok other := by
  obtain ⟨first, second, keys, permuted, found, layer, found', layer', perm⟩ := reordered
  rw [found, readKeyMap_of_layer layer] at read
  rw [found', readKeyMap_of_layer layer', addKeys_isOk_iff]
  have usable := (addKeys_isOk_iff _ _).mp ⟨keyMap, read⟩
  intro entry member
  exact usable entry (perm.mem_iff.mpr member)

theorem Reordered.ofDocument {document other : Value}
    (reordered : Reordered document.entries other.entries) :
    ofDocument other = ofEntries other.entries := by
  obtain ⟨-, second, -, -, -, -, found, -, -⟩ := reordered
  have layer := layer_of_field found
  rw [Config.ofDocument, if_pos (isTruthy_of_field layer found), ofValue, layer]

/-- The key map of an accepted document is the default one with its entries laid over it, and its
numbers are those it gives or the usual ones. Nothing but the settings that there are makes a
difference, nor does the order of the key map's entries, unless two of their names are shown
alike. -/
theorem effective_settings :
    (∀ (document : Value) (config : Config), ofDocument document = .ok config →
      Overlays (keyEntries document.entries) KeyMap.default config.keyMap ∧
      (∀ pair ∈ config.keyMap, 0 ≤ pair.2 ∧ pair.2 ≤ 15) ∧
      (∀ name ∈ KeyMap.default.names, name ∈ config.keyMap.names) ∧
      (Given document.entries "scale" 10 config.scale ∧ 1 ≤ config.scale) ∧
      (Given document.entries "frame_interval_ms" 16 config.frameInterval ∧
        1 ≤ config.frameInterval)) ∧
    (∀ (document other : Value) (first second : Config),
      ofDocument document = .ok first → ofDocument other = .ok second →
      (∀ name ∈ settingNames,
        Value.field? other.entries name = Value.field? document.entries name) →
      first = second) ∧
    ∀ (document other : Value) (first : Config), ofDocument document = .ok first →
      Reordered document.entries other.entries → Unlike (keyEntries document.entries) →
      (∀ name ∈ otherNames,
        Value.field? other.entries name = Value.field? document.entries name) →
      ∃ second, ofDocument other = .ok second ∧
        second = { first with keyMap := second.keyMap } ∧
        ∀ name, second.keyMap.get? name = first.keyMap.get? name := by
  refine ⟨?_, ?_, ?_⟩
  · intro document config accepted
    have sets := ofEntries_eq_ok.mp (ofEntries_of_accepted accepted)
    have overlays := sets.overlays
    refine ⟨overlays, overlays.onKeypad (ofDocument_onKeypad accepted), ?_,
      ⟨given_of_integerField sets.scale, sets.positive.1⟩,
      ⟨given_of_integerField sets.frameInterval, sets.positive.2⟩⟩
    intro name usual
    exact (overlays.names name).mpr (.inl usual)
  · intro document other first second accepted accepted' same
    have sets := ofEntries_eq_ok.mp (ofEntries_of_accepted accepted)
    have read := ofEntries_of_accepted accepted'
    obtain ⟨keys, rest⟩ := List.forall_mem_cons.mp same
    have again := ofEntries_eq_ok.mpr (sets.withKeyMap rest (keys ▸ sets.keyMap))
    exact Except.ok.inj (again.symm.trans read)
  · intro document other first accepted reordered unlike same
    have sets := ofEntries_eq_ok.mp (ofEntries_of_accepted accepted)
    obtain ⟨keyMap, read⟩ := reordered.readKeyMap sets.keyMap
    have after := sets.withKeyMap same read
    refine ⟨_, reordered.ofDocument.trans (ofEntries_eq_ok.mpr after), rfl, ?_⟩
    intro name
    exact sets.overlays.get?_congr after.overlays (lastFor_perm unlike reordered.keyEntries name)

theorem field?_cons_of_apart {entry : Scalar × Value} {name : Text}
    (apart : entry.1.same (.text name) = false) :
    Value.field? (entry :: entries) name = Value.field? entries name := by
  simp [Value.field?, apart]

def withKeys (keys : List (Scalar × Value)) (more : List (Scalar × Value)) : Value :=
  .map (more ++ [(.text "key_map", .map keys), (.text "scale", .scalar (.int 4))])

/-- Of two names that are both shown as `1` the last one counts, an entry that is no setting makes
no difference, and two other names may change places. -/
theorem effective_settings_colliding :
    let one : Scalar × Value := (.int 1, .scalar (.int 0xA))
    let same : Scalar × Value := (.text "1", .scalar (.text "0x3"))
    let other : Scalar × Value := (.text "P", .scalar (.int 0xB))
    (∃ config, ofDocument (withKeys [one, same] []) = .ok config ∧
      config.keyMap.get? "1" = some 3 ∧ config.keyMap.get? "X" = some 0 ∧ config.scale = 4 ∧
      config.frameInterval = 16) ∧
    (∃ first second, ofDocument (withKeys [one] []) = .ok first ∧
      ofDocument (withKeys [one] [(.text "comment", .scalar .null)]) = .ok second ∧
      first = second) ∧
    ∃ first second, ofDocument (withKeys [one, other] []) = .ok first ∧
      ofDocument (withKeys [other, one] []) = .ok second ∧
      ∀ name, second.keyMap.get? name = first.keyMap.get? name := by
  intro one same other
  refine ⟨?last, ?agree, ?permuted⟩
  case last =>
    obtain ⟨config, accepted⟩ : ∃ config, ofDocument (withKeys [one, same] []) = .ok config :=
      ⟨_, rfl⟩
    obtain ⟨overlays, -, -, ⟨scale, -⟩, interval, -⟩ := effective_settings.1 _ config accepted
    obtain ⟨number, writes, found⟩ := overlays.last "1" same.2 rfl
    have three : number = 3 := Except.ok.inj (integer_eq_ok.mpr writes).symm
    have four : config.scale = 4 := Except.ok.inj (integer_of_writes scale).symm
    exact ⟨config, accepted, three ▸ found, overlays.others "X" rfl, four, interval⟩
  case agree =>
    have unset : ∀ name ∈ settingNames, (Scalar.text "comment").same (.text name) = false := by
      decide
    have agree : ∀ name ∈ settingNames,
        Value.field? (withKeys [one] [(.text "comment", .scalar .null)]).entries name =
          Value.field? (withKeys [one] []).entries name := by
      intro name setting
      exact field?_cons_of_apart (unset name setting)
    obtain ⟨first, accepted⟩ : ∃ first, ofDocument (withKeys [one] []) = .ok first := ⟨_, rfl⟩
    obtain ⟨second, accepted'⟩ :
        ∃ second, ofDocument (withKeys [one] [(.text "comment", .scalar .null)]) = .ok second :=
      ⟨_, rfl⟩
    exact ⟨first, second, accepted, accepted',
      effective_settings.2.1 _ _ first second accepted accepted' agree⟩
  case permuted =>
    have reordered : Reordered (withKeys [one, other] []).entries
        (withKeys [other, one] []).entries :=
      ⟨.map [one, other], .map [other, one], [one, other], [other, one], rfl, rfl, rfl, rfl,
        .swap other one []⟩
    have unlike : Unlike [one, other] := by
      apply List.pairwise_pair.mpr
      change (Value.scalar (.int 1)).text? ≠ (Value.scalar (.text "P")).text?
      decide
    have agree : ∀ name ∈ otherNames, Value.field? (withKeys [other, one] []).entries name =
        Value.field? (withKeys [one, other] []).entries name := by
      simp only [otherNames, textNames, List.forall_mem_cons]
      exact ⟨rfl, rfl, rfl, rfl, rfl, rfl, List.forall_mem_nil _⟩
    obtain ⟨first, accepted⟩ : ∃ first, ofDocument (withKeys [one, other] []) = .ok first :=
      ⟨_, rfl⟩
    obtain ⟨second, accepted', -, same⟩ :=
      effective_settings.2.2 _ _ first accepted reordered unlike agree
    exact ⟨first, second, accepted, accepted', same⟩

end Config

end Chip8
