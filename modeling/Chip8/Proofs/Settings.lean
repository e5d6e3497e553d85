import Chip8.Config.Reader

namespace Chip8

def Yaml.Value.entries (value : Value) : List (Scalar × Value) :=
  match value.unfold with
  | .map entries => entries
  | _ => []

namespace KeyMap

def OnKeypad (keyMap : KeyMap) : Prop :=
  ∀ name key, keyMap.get? name = some key → 0 ≤ key ∧ key < 16

theorem mem_of_get? {keyMap : KeyMap} {name : Text} {key : Int}
    (found : keyMap.get? name = some key) : (name, key) ∈ keyMap := by
  obtain ⟨earlier, later, parts, -⟩ := List.lookup_eq_some_iff.mp found
  rw [parts]
  exact List.mem_append_right _ List.mem_cons_self

theorem default_onKeypad : default.OnKeypad := by
  have all : ∀ entry ∈ default, 0 ≤ entry.2 ∧ entry.2 < 16 := by decide
  intro name key found
  exact all (name, key) (mem_of_get? found)

theorem OnKeypad.insert {keyMap : KeyMap} (valid : keyMap.OnKeypad) (name : Text) {key : Int}
    (low : 0 ≤ key) (high : key < 16) : (keyMap.insert name key).OnKeypad := by
  intro other number found
  rw [get?_insert] at found
  split at found
  · cases found
    exact ⟨low, high⟩
  · exact valid other number found

end KeyMap

namespace Config

open Yaml

theorem bind_eq_ok {ε α β : Type} {first : Except ε α} {rest : α → Except ε β} {value : β} :
    (first >>= rest) = .ok value ↔ ∃ found, first = .ok found ∧ rest found = .ok value := by
  cases first with
  | error refusal => simp [bind, Except.bind]
  | ok found => simp [bind, Except.bind]

theorem key_eq_ok {name : Scalar} {value : Value} {shownName : Text} {number : Int}
    (read : key name value = .ok (shownName, number)) :
    integer value = .ok number ∧ shown (.scalar name) = .ok shownName ∧
      0 ≤ number ∧ number < 16 := by
  obtain ⟨written, found, rest⟩ := bind_eq_ok.mp read
  split at rest
  next inside =>
      obtain ⟨text, named, same⟩ := bind_eq_ok.mp rest
      cases same
      exact ⟨found, named, by omega⟩
  next =>
      obtain ⟨text, -, refused⟩ := bind_eq_ok.mp rest
      obtain ⟨digits, -, clash⟩ := bind_eq_ok.mp refused
      cases clash

theorem addKeys_onKeypad {entries : List (Scalar × Value)} {before after : KeyMap}
    (valid : before.OnKeypad) (read : addKeys before entries = .ok after) : after.OnKeypad := by
  induction entries generalizing before with
  | nil =>
      cases read
      exact valid
  | cons entry rest ih =>
      obtain ⟨⟨name, number⟩, found, others⟩ := bind_eq_ok.mp read
      obtain ⟨-, -, low, high⟩ := key_eq_ok found
      exact ih (valid.insert name low high) others

theorem readKeyMap_onKeypad {value : Option Value} {keyMap : KeyMap}
    (read : readKeyMap value = .ok keyMap) : keyMap.OnKeypad := by
  cases value with
  | none =>
      cases read
      exact KeyMap.default_onKeypad
  | some value =>
      simp only [readKeyMap] at read
      split at read
      next =>
          cases read
          exact KeyMap.default_onKeypad
      next =>
          split at read
          next => exact addKeys_onKeypad KeyMap.default_onKeypad read
          next => cases read

variable {entries : List (Scalar × Value)} {config : Config}

structure Sets (entries : List (Scalar × Value)) (config : Config) : Prop where
  keyMap : readKeyMap (Value.field? entries "key_map") = .ok config.keyMap
  scale : integerField entries "scale" 10 = .ok config.scale
  frameInterval : integerField entries "frame_interval_ms" 16 = .ok config.frameInterval
  positive : 0 < config.scale ∧ 0 < config.frameInterval
  foreground : textField entries "foreground" "#FFFFFF" = .ok config.foreground
  background : textField entries "background" "#000000" = .ok config.background
  windowTitle : textField entries "window_title" "Retro CHIP-8" = .ok config.windowTitle
  quitKey : textField entries "quit_key" KeyMap.defaultQuitKey = .ok config.quitKey

theorem ofEntries_eq_ok : ofEntries entries = .ok config ↔ Sets entries config := by
  constructor
  · intro read
    obtain ⟨keyMap, keyMapRead, rest⟩ := bind_eq_ok.mp read
    obtain ⟨scale, scaleRead, rest⟩ := bind_eq_ok.mp rest
    obtain ⟨frameInterval, frameIntervalRead, rest⟩ := bind_eq_ok.mp rest
    split at rest
    next => cases rest
    next positive =>
        obtain ⟨foreground, foregroundRead, rest⟩ := bind_eq_ok.mp rest
        obtain ⟨background, backgroundRead, rest⟩ := bind_eq_ok.mp rest
        obtain ⟨windowTitle, windowTitleRead, rest⟩ := bind_eq_ok.mp rest
        obtain ⟨quitKey, quitKeyRead, same⟩ := bind_eq_ok.mp rest
        cases same
        have above : 0 < scale ∧ 0 < frameInterval := by omega
        exact ⟨keyMapRead, scaleRead, frameIntervalRead, above, foregroundRead, backgroundRead,
          windowTitleRead, quitKeyRead⟩
  · intro sets
    have positive : ¬(config.scale ≤ 0 ∨ config.frameInterval ≤ 0) := by
      have above := sets.positive
      omega
    refine bind_eq_ok.mpr ⟨_, sets.keyMap, bind_eq_ok.mpr ⟨_, sets.scale,
      bind_eq_ok.mpr ⟨_, sets.frameInterval, ?_⟩⟩⟩
    rw [if_neg positive]
    exact bind_eq_ok.mpr ⟨_, sets.foreground, bind_eq_ok.mpr ⟨_, sets.background,
      bind_eq_ok.mpr ⟨_, sets.windowTitle, bind_eq_ok.mpr ⟨_, sets.quitKey, rfl⟩⟩⟩⟩

theorem ofEntries_onKeypad (read : ofEntries entries = .ok config) : config.keyMap.OnKeypad :=
  readKeyMap_onKeypad (ofEntries_eq_ok.mp read).keyMap

theorem entries_of_layer {value : Value} (layer : value.unfold = .map entries) :
    value.entries = entries := by
  rw [Value.entries, layer]

theorem entries_of_empty {value : Value} (empty : value.isTruthy = false) : value.entries = [] := by
  rw [Value.isTruthy] at empty
  rw [Value.entries]
  split
  next entries layer =>
      rw [layer] at empty
      simpa using empty
  next => rfl

variable {document : Value}

theorem ofEntries_of_ofValue (read : ofValue document = .ok config) :
    ofEntries document.entries = .ok config := by
  rw [ofValue] at read
  split at read
  next entries layer => rw [entries_of_layer layer]; exact read
  next => cases read

theorem ofEntries_of_accepted (read : ofDocument document = .ok config) :
    ofEntries document.entries = .ok config := by
  rw [ofDocument] at read
  split at read
  next => exact ofEntries_of_ofValue read
  next empty =>
      rw [entries_of_empty (by simpa using empty)]
      exact read

theorem ofValue_onKeypad (read : ofValue document = .ok config) : config.keyMap.OnKeypad :=
  ofEntries_onKeypad (ofEntries_of_ofValue read)

theorem ofDocument_onKeypad (read : ofDocument document = .ok config) : config.keyMap.OnKeypad :=
  ofEntries_onKeypad (ofEntries_of_accepted read)

theorem ofBytes_onKeypad {path : String} {bytes : List UInt8}
    (read : ofBytes path bytes = .ok config) : config.keyMap.OnKeypad := by
  unfold ofBytes at read
  split at read
  next => exact ofDocument_onKeypad read
  next => cases read
  next => cases read

theorem ofFile_onKeypad {files : String → Except FileTree.Refusal ByteArray} {path : String}
    (read : ofFile files path = .ok config) : config.keyMap.OnKeypad := by
  rw [ofFile] at read
  split at read
  · cases read
  · cases found : files path with
    | error cause =>
        rw [found] at read
        cases read
    | ok bytes =>
        rw [found] at read
        exact ofBytes_onKeypad read

end Config

end Chip8
