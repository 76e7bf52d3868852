import Mathlib.Control.Monad.Basic
import ToolBindings.Config.File
import ToolBindings.Proofs.Data.Merge
import ToolBindings.Proofs.Data.Texts
import ToolBindings.Proofs.Server.Selection

/-!
# Configuration that is used or refused

From the octets of configuration files to the servers that they configure: what ends with servers or
with the report of what is wrong with the configuration (`Reported`), and what ends otherwise. Files
have to hold UTF-8, and the keys of both layers and of the servers have to be texts; nothing else
about the files can go wrong without a report (`reported_servers_iff`).
-/

namespace ToolBindings

/-! ## Outcomes -/

/-- There is a result, or a report of what is wrong with the configuration. -/
def Reported {α : Type} : Except Fault α → Prop
  | .ok _ => True
  | .error (.failure (.configuration _)) => True
  | .error _ => False

namespace Reported

variable {α β : Type}

@[simp] theorem ok (a : α) : Reported (.ok a : Except Fault α) := trivial

@[simp] theorem ofConfiguration (cause : ConfigurationFault) :
    Reported (.error (.ofConfiguration cause) : Except Fault α) := trivial

@[simp] theorem not_crash (crash : Crash) : ¬Reported (.error (.crash crash) : Except Fault α) := id

/-- A report is one for outcomes of all types. -/
theorem error_iff {fault : Fault} :
    Reported (.error fault : Except Fault α) ↔ Reported (.error fault : Except Fault β) := by
  cases fault with
  | failure cause => cases cause <;> exact Iff.rfl
  | crash => exact Iff.rfl

theorem bind_iff {outcome : Except Fault α} {next : α → Except Fault β} :
    Reported (outcome >>= next) ↔ Reported outcome ∧ ∀ a, outcome = .ok a → Reported (next a) := by
  cases outcome with
  | ok a =>
    constructor
    · intro h
      refine ⟨trivial, ?_⟩
      rintro _ ⟨⟩
      exact h
    · intro h
      exact h.2 a rfl
  | error fault =>
    constructor
    · intro h
      refine ⟨error_iff.1 h, ?_⟩
      rintro _ ⟨⟩
    · intro h
      exact error_iff.1 h.1

/-- A walk through a list ends at the first element that does not go well. -/
theorem filterMapM_iff {f : α → Except Fault (Option β)} {xs : List α} :
    Reported (xs.filterMapM f) ↔ ∀ front x back, xs = front ++ x :: back →
      (∀ y ∈ front, ∃ b, f y = .ok b) → Reported (f x) := by
  constructor
  · intro h front x back heq hfront
    cases hx : f x with
    | ok b => exact Reported.ok b
    | error fault =>
      rw [filterMapM_eq_error.2 ⟨front, x, back, heq, hfront, hx⟩] at h
      exact error_iff.1 h
  · intro h
    cases hxs : xs.filterMapM f with
    | ok bs => exact Reported.ok bs
    | error fault =>
      obtain ⟨front, x, back, heq, hfront, hx⟩ := filterMapM_eq_error.1 hxs
      have hfault := h front x back heq hfront
      rw [hx] at hfault
      exact error_iff.1 hfault

end Reported

/-! ## Keys -/

/-- Every key is a text. -/
def TextKeys (fields : ConfigFields) : Prop := ∀ key ∈ Entries.keys fields, ∃ s, key = .text s

theorem allText_iff {fields : ConfigFields} : Field.allText fields = true ↔ TextKeys fields := by
  have hkey (key : ConfigKey) : key.text?.isSome = true ↔ ∃ s, key = .text s := by
    cases key <;> simp [ConfigKey.text?]
  unfold Field.allText TextKeys Entries.keys
  rw [List.all_eq_true, List.forall_mem_map]
  simp only [hkey]

/-- Neither merging nor placeholders change which keys there are. -/
theorem textKeys_mergedFields {environment : Environment} {globalLayer localLayer : ConfigFields} :
    TextKeys (Settings.mergedFields environment globalLayer localLayer)
      ↔ TextKeys globalLayer ∧ TextKeys localLayer := by
  unfold TextKeys Settings.mergedFields
  simp only [Data.keys_mapTextsFields, Data.mem_keys_mergeFields, or_imp, forall_and]

theorem Settings.reported_ofMerged {fields : ConfigFields} :
    Reported (ofMerged fields) ↔ TextKeys fields := by
  rw [← allText_iff, ofMerged, ofConfig]
  by_cases hkeys : Field.allText fields = true
  · rw [if_pos hkeys]
    cases ofFields fields <;> simp [hkeys]
  · rw [if_neg hkeys]
    simp [hkeys]

theorem Settings.reported_serverOf? {slug : String} {entry : ConfigValue} :
    Reported (serverOf? slug entry) ↔ ∀ fields, entry = .map fields → TextKeys fields := by
  cases entry with
  | map fields =>
    rw [serverOf?]
    by_cases hkeys : Field.allText fields = true
    · rw [if_pos hkeys]
      refine iff_of_true ?_ ?_
      · cases Server.ofFields slug fields <;> simp
      · rintro _ ⟨⟩
        exact allText_iff.1 hkeys
    · rw [if_neg hkeys]
      refine iff_of_false (Reported.not_crash _) ?_
      intro h
      exact hkeys (allText_iff.2 (h fields rfl))
  | _ => exact iff_of_true trivial (by rintro _ ⟨⟩)

example : Settings.serverOf? "crm" (.map [(.int 1, .null)]) = .error (.crash .wrongType) := rfl

/-! ## Files -/

/-- It can be told whether the file is there, and a reader comes to no octets in it that are not
UTF-8. -/
structure Legible (reader : ConfigFile.Reader) (files : FileTree) (path : Path) : Prop where
  sought : ∃ there, files.isPresent path = .ok there
  text : ∀ octets, files.read path = .ok octets → reader.read octets ≠ .undecodable

/-- A file that is not there cannot be read. -/
theorem FileTree.read_ne_ok_of_absent {files : FileTree} {path : Path}
    (h : files.isPresent path = .ok false) (octets : List UInt8) :
    files.read path ≠ .ok octets := by
  intro hread
  unfold isPresent find? at h
  unfold read at hread
  cases hlocate : files.locate true path with
  | error e =>
    rw [hlocate] at hread
    cases hread
  | ok location =>
    rw [hlocate] at h hread
    cases hentry : files.at? location with
    | none => simp [hentry] at hread
    | some entry => simp [hentry, Except.map] at h

namespace ConfigFile

variable {reader : Reader} {environment : Environment} {files : FileTree} {home path : Path}
  {named : Option Path}

theorem reported_parse {octets : List UInt8} :
    Reported (parse reader path octets) ↔ reader.read octets ≠ .undecodable := by
  rw [parse]
  cases reader.read octets with
  | undecodable => simp
  | malformed => simp
  | value v =>
    refine iff_of_true ?_ nofun
    cases v <;> trivial

theorem reported_load : Reported (load reader files path) ↔ Legible reader files path := by
  rw [load]
  cases hpresent : files.isPresent path with
  | error e =>
    refine iff_of_false (Reported.not_crash _) ?_
    rintro ⟨⟨there, hthere⟩, -⟩
    rw [hpresent] at hthere
    cases hthere
  | ok there =>
    cases there with
    | false =>
      refine iff_of_true trivial ⟨⟨false, hpresent⟩, ?_⟩
      intro octets hread
      exact absurd hread (FileTree.read_ne_ok_of_absent hpresent octets)
    | true =>
      dsimp only
      cases hread : files.read path with
      | error e =>
        refine iff_of_true trivial ⟨⟨true, hpresent⟩, ?_⟩
        intro octets hoctets
        rw [hread] at hoctets
        cases hoctets
      | ok octets =>
        dsimp only
        rw [reported_parse]
        constructor
        · intro htext
          refine ⟨⟨true, hpresent⟩, ?_⟩
          intro others hothers
          rw [hread] at hothers
          cases hothers
          exact htext
        · intro hlegible
          exact hlegible.text octets hread

theorem reported_checkNamed :
    Reported (checkNamed files named)
      ↔ ∀ path, named = some path → ∃ there, files.isPresent path = .ok there := by
  cases named with
  | none => exact iff_of_true trivial (by rintro _ ⟨⟩)
  | some path =>
    rw [checkNamed]
    cases hpresent : files.isPresent path with
    | error e =>
      refine iff_of_false (Reported.not_crash _) ?_
      intro h
      obtain ⟨there, hthere⟩ := h path rfl
      rw [hpresent] at hthere
      cases hthere
    | ok there =>
      refine iff_of_true (by cases there <;> trivial) ?_
      rintro _ ⟨⟩
      exact ⟨there, hpresent⟩

/-- The local file, be it named or searched for, is legible. -/
def LegibleLocal (reader : Reader) (files : FileTree) : Option Path → Prop
  | some path => Legible reader files path
  | none => ∃ found, nearest files = .ok found ∧ ∀ path, found = some path → Legible reader files path

/-- A search upwards ends without a file, with one, or with a file error. -/
theorem exists_crash_of_nearestFrom {depth : Nat} {directory : Location} {fault : Fault}
    (h : nearestFrom files depth directory = .error fault) : ∃ e, fault = crash e := by
  induction depth generalizing directory with
  | zero => cases h
  | succ depth ih =>
    rw [nearestFrom] at h
    split at h
    · cases h
    · dsimp only at h
      split at h
      · cases h
        exact ⟨_, rfl⟩
      · cases h
      · exact ih h

theorem reported_localLayer :
    Reported (localLayer reader files named) ↔ LegibleLocal reader files named := by
  cases named with
  | some path => exact reported_load
  | none =>
    rw [localLayer, LegibleLocal]
    cases hnearest : nearest files with
    | error fault =>
      obtain ⟨e, rfl⟩ := exists_crash_of_nearestFrom hnearest
      refine iff_of_false (Reported.not_crash _) ?_
      rintro ⟨found, ⟨⟩, -⟩
    | ok found =>
      cases found with
      | none => exact iff_of_true trivial ⟨none, rfl, by rintro _ ⟨⟩⟩
      | some path =>
        dsimp only
        rw [reported_load]
        constructor
        · intro h
          refine ⟨some path, rfl, ?_⟩
          rintro _ ⟨⟩
          exact h
        · rintro ⟨_, ⟨⟩, h⟩
          exact h path rfl

/-! ## From files to servers -/

/-- The servers that configuration files come to. -/
def servers (reader : Reader) (environment : Environment) (files : FileTree) (home : Path)
    (named : Option Path) : Except Fault (List Server) := do
  (← settingsBy reader environment files home named).allServers

/-- What files and keys are expected to be, as far as they are come to: a file that is named is looked
for first, the global layer is read before the local one, and servers are read in the order of their
slugs until one does not fit. -/
structure Expected (reader : Reader) (environment : Environment) (files : FileTree) (home : Path)
    (named : Option Path) : Prop where
  namedFile : ∀ path, named = some path → ∃ there, files.isPresent path = .ok there
  globalFile : checkNamed files named = .ok () → Legible reader files (globalPath home)
  localFile : checkNamed files named = .ok () →
    ∀ fields, load reader files (globalPath home) = .ok fields → LegibleLocal reader files named
  layerKeys : ∀ layers, layersBy reader files home named = .ok layers →
    TextKeys layers.globalLayer ∧ TextKeys layers.localLayer
  serverKeys : ∀ settings, settingsBy reader environment files home named = .ok settings →
    ∀ front slug fields back,
      Text.sortedBy (·.1) settings.servers = front ++ (slug, .map fields) :: back →
      (∀ e ∈ front, ∃ server, Settings.serverOf? e.1 e.2 = .ok server) → TextKeys fields

theorem reported_allServers {settings : Settings} :
    Reported settings.allServers ↔ ∀ front slug fields back,
      Text.sortedBy (·.1) settings.servers = front ++ (slug, .map fields) :: back →
      (∀ e ∈ front, ∃ server, Settings.serverOf? e.1 e.2 = .ok server) → TextKeys fields := by
  rw [Settings.allServers, Reported.filterMapM_iff]
  constructor
  · intro h front slug fields back heq hfront
    exact Settings.reported_serverOf?.1 (h front (slug, .map fields) back heq hfront) fields rfl
  · rintro h front ⟨slug, entry⟩ back heq hfront
    apply Settings.reported_serverOf?.2
    rintro fields rfl
    exact h front slug fields back heq hfront

theorem reported_layersBy :
    Reported (layersBy reader files home named) ↔
      (∀ path, named = some path → ∃ there, files.isPresent path = .ok there) ∧
        (checkNamed files named = .ok () → Legible reader files (globalPath home) ∧
          ∀ fields, load reader files (globalPath home) = .ok fields →
            LegibleLocal reader files named) := by
  have hlocal (fields : ConfigFields) : Reported (do
      let localLayer ← localLayer reader files named
      return (⟨fields, localLayer⟩ : ConfigLayers)) ↔ LegibleLocal reader files named := by
    rw [Reported.bind_iff, reported_localLayer]
    exact and_iff_left fun _ _ => trivial
  rw [layersBy, Reported.bind_iff, reported_checkNamed]
  refine and_congr_right fun _ => ?_
  constructor
  · intro h hnamed
    have hboth := h () hnamed
    rw [Reported.bind_iff, reported_load] at hboth
    exact ⟨hboth.1, fun fields hfields => (hlocal fields).1 (hboth.2 fields hfields)⟩
  · intro h _ hnamed
    obtain ⟨hglobal, hmore⟩ := h hnamed
    rw [Reported.bind_iff, reported_load]
    exact ⟨hglobal, fun fields hfields => (hlocal fields).2 (hmore fields hfields)⟩

/-- Configuration files come to servers, or to a report of what is wrong with the configuration,
exactly if it can be told which files are there, the reader comes to no octets in them that are not
UTF-8, and the keys of both layers and of the servers are texts. -/
theorem reported_servers_iff (reader : Reader) (environment : Environment) (files : FileTree)
    (home : Path) (named : Option Path) :
    Reported (servers reader environment files home named)
      ↔ Expected reader environment files home named := by
  have hsettings : Reported (settingsBy reader environment files home named) ↔
      Reported (layersBy reader files home named) ∧
        ∀ layers, layersBy reader files home named = .ok layers →
          TextKeys layers.globalLayer ∧ TextKeys layers.localLayer := by
    rw [settingsBy, Reported.bind_iff]
    simp only [Settings.reported_ofMerged, textKeys_mergedFields]
  rw [servers, Reported.bind_iff, hsettings, reported_layersBy]
  simp only [reported_allServers]
  constructor
  · rintro ⟨⟨⟨hnamed, hfiles⟩, hkeys⟩, hservers⟩
    exact ⟨hnamed, fun h => (hfiles h).1, fun h => (hfiles h).2, hkeys, hservers⟩
  · rintro ⟨hnamed, hglobal, hlocal, hkeys, hservers⟩
    exact ⟨⟨⟨hnamed, fun h => ⟨hglobal h, hlocal h⟩⟩, hkeys⟩, hservers⟩

/-- A project whose local file is not UTF-8. -/
def strayOctet : FileTree :=
  ⟨[(["crm"], .directory), (["crm", localName], .file [0x61, 0x3A, 0x20, 0xFF])], ["crm"]⟩

/-- A file that is not UTF-8 is not reported. -/
theorem not_reported_strayOctet :
    servers yaml [] strayOctet ⟨"/", ["home"]⟩ none = .error (.crash .notUtf8) ∧
      ¬Reported (servers yaml [] strayOctet ⟨"/", ["home"]⟩ none) := by
  have hglobal : strayOctet.isPresent (globalPath ⟨"/", ["home"]⟩) = .ok false := by decide +kernel
  have hnearest : nearest strayOctet = .ok (some ⟨"/", ["crm", localName]⟩) := by decide +kernel
  have hpresent : strayOctet.isPresent ⟨"/", ["crm", localName]⟩ = .ok true := by decide +kernel
  have hread : strayOctet.read ⟨"/", ["crm", localName]⟩ = .ok [0x61, 0x3A, 0x20, 0xFF] := by
    decide +kernel
  have hdecode : Text.Utf8.decode? [0x61, 0x3A, 0x20, 0xFF] = none := by decide +kernel
  have hlocal : localLayer yaml strayOctet none = .error (.crash .notUtf8) := by
    simp only [localLayer, hnearest, load, hpresent, hread, parse, yaml, Reader.ofTexts, hdecode]
  have hservers : servers yaml [] strayOctet ⟨"/", ["home"]⟩ none = .error (.crash .notUtf8) := by
    rw [servers, settingsBy, layersBy, load, hglobal, hlocal]
    rfl
  refine ⟨hservers, ?_⟩
  rw [hservers]
  exact Reported.not_crash _

end ConfigFile
end ToolBindings
