import Mathlib.Data.String.Basic
import ReplicaRouter.CommandLine.Directory
import ReplicaRouter.Proofs.Printing
/-
Settings that are saved and loaded again. The document of settings says all of them, so what is loaded from it are the
settings that were saved; settings that no document can hold are not saved at all, and no settings are loaded that do
not meet their conditions.
Main statement: `CommandLine.settings_kept`.
-/
namespace ReplicaRouter

namespace Settings

variable {s : Settings}

/-! ## Documents of settings -/

/-- The tables and keys are the same for all settings, so the default ones tell what they are like. -/
theorem sections_spelled (s : Settings) :
    (s.sections.map Toml.Section.name).Nodup ∧
      ∀ t ∈ s.sections, Toml.IsBare t.name ∧ (∀ key ∈ t.entries.map Prod.fst, Toml.IsBare key) ∧
        (t.entries.map Prod.fst).Nodup := by
  have all : (({} : Settings).sections.map Toml.Section.name).Nodup ∧
      ∀ t ∈ ({} : Settings).sections.map fun t => (t.name, t.entries.map Prod.fst),
        Toml.IsBare t.1 ∧ (∀ key ∈ t.2, Toml.IsBare key) ∧ t.2.Nodup := by decide
  refine ⟨all.1, fun t ht => ?_⟩
  have hmem : (t.name, t.entries.map Prod.fst) ∈ s.sections.map fun t => (t.name, t.entries.map Prod.fst) :=
    List.mem_map.2 ⟨t, ht, rfl⟩
  exact all.2 _ hmem

theorem sections_fit (h : ∀ n ∈ s.numbers, Toml.fits n) : ∀ t ∈ s.sections, ∀ entry ∈ t.entries, entry.2.Fits := by
  simp only [numbers, List.forall_mem_cons] at h
  obtain ⟨hconnections, hvalidation, hretries, hacquire, hexpiration, hinterval, -⟩ := h
  simp [sections, List.forall_mem_cons, Toml.Plain.Fits, hconnections, hvalidation, hretries, hacquire, hexpiration,
    hinterval, -List.mem_cons, -Prod.forall]

/-- The entries of the document say all that the settings are. -/
theorem ofEntries?_sections (s : Settings) : ofEntries? (s.sections.map Toml.Section.value) = some s := by
  have hselection : selectionOfName? s.splitting.readerSelection.name = some s.splitting.readerSelection := by
    cases s.splitting.readerSelection <;> rfl
  simp [ofEntries?, sections, Toml.Section.value, Toml.lookup, poolOf?, cacheOf?, splittingOf?, telemetryOf?,
    loggingOf?, fields?, Toml.Plain.value, natural?, boolean?, text?, selection?, hselection]

theorem read_sections (h : ∀ n ∈ s.numbers, Toml.fits n) :
    (Toml.read (Toml.write s.sections)).bind ofEntries? = some s := by
  obtain ⟨hnames, hspelled⟩ := s.sections_spelled
  have hread := Toml.read_write (fun t ht =>
    { name := (hspelled t ht).1, keys := (hspelled t ht).2.1, distinct := (hspelled t ht).2.2,
      values := sections_fit h t ht }) hnames
  rw [hread, Option.bind_some, ofEntries?_sections]

theorem ofBytes_toUTF8 (text : String) : ofBytes text.toUTF8 = ofDocument text := by
  have hvalid : String.fromUTF8? text.toUTF8 = some text := dif_pos text.isValidUTF8
  rw [ofBytes, hvalid]

/-! ## Valid settings -/

/-- Settings that meet all their conditions. -/
abbrev Valid : Type := { s : Settings // s.validate = .ok () }

theorem validate_of_ofDocument {text : String} (h : ofDocument text = .ok s) : s.validate = .ok () := by
  unfold ofDocument at h
  split at h
  · contradiction
  · split at h
    · contradiction
    · next hvalid =>
      cases h
      exact hvalid

theorem validate_of_ofBytes {bytes : ByteArray} (h : ofBytes bytes = .ok s) : s.validate = .ok () := by
  unfold ofBytes at h
  split at h
  · exact validate_of_ofDocument h
  · contradiction

theorem ofBytes_sections (h : ∀ n ∈ s.numbers, Toml.fits n) (hvalid : s.validate = .ok ()) :
    ofBytes (Toml.write s.sections).toUTF8 = .ok s := by
  rw [ofBytes_toUTF8, ofDocument, read_sections h]
  simp [hvalid]

end Settings

namespace CommandLine

/-! ## Files -/

/-- A text written to this file is there when the file is read right afterwards. -/
def Files.Writable {m : Type → Type} [Monad m] (files : Files m) (path : String) : Prop :=
  ∀ text, (do
      let written ← files.write path text
      let found ← files.read path
      return (written, found)) = (do
      let _ ← files.write path text
      let _ ← files.read path
      return (.ok (), .ok text.toUTF8))

namespace Directory

/-- The induction is on what is left of the text, in which no slash is found. -/
theorem splitOnAux_of_not_mem (l r : List Char) (h : '/' ∉ r) :
    (String.ofList (l ++ r)).splitOnAux "/" 0 ⟨String.utf8Len l⟩ 0 [] = [String.ofList (l ++ r)] := by
  induction r generalizing l with
  | nil =>
    rw [String.splitOnAux.eq_def, if_pos ((String.atEnd_of_valid l []).2 rfl)]
    simpa using String.extract_of_valid [] l []
  | cons c r ih =>
    have hget :
        (String.Pos.Raw.get (String.ofList (l ++ c :: r)) ⟨String.utf8Len l⟩ == String.Pos.Raw.get "/" 0) = false := by
      rw [String.get_of_valid]
      have hc : c ≠ '/' := by rintro rfl; simp at h
      exact beq_false_of_ne hc
    have hmore := ih (l ++ [c]) (by simp_all)
    rw [String.splitOnAux.eq_def, if_neg (mt (String.atEnd_of_valid l (c :: r)).1 (by simp)), hget]
    have hstep : String.Pos.Raw.unoffsetBy ⟨String.utf8Len l⟩ 0 = ⟨String.utf8Len l⟩ := rfl
    rw [hstep, String.next_of_valid]
    simpa using hmore

/-- A name without slashes is a path of one step. -/
theorem steps_of_not_mem {path : String} (h : '/' ∉ path.toList) (hempty : path ≠ "") (hhere : path ≠ ".") :
    steps path = [path] := by
  have hsplit : path.splitOn "/" = [path] := by
    simpa [String.splitOn] using splitOnAux_of_not_mem [] path.toList h
  simp [steps, hsplit, hempty, hhere]

/-- The path leads to the file of this name, whether it is there or not. -/
structure LeadsTo (path name : String) : Prop where
  steps : steps path = [name]
  inside : name ≠ ".."
  relative : path.startsWith "/" = false
  file : path.endsWith "/" = false

namespace LeadsTo

variable {path name : String} (h : LeadsTo path name)

include h

theorem name?_eq (d : Directory) : d.name? path = .ok name := by
  -- Two points would be the directory above, which is no file.
  have hinside := h.inside
  simp [name?, h.steps, h.relative]

theorem run_write (text : String) (d : Directory) :
    (files.write path text).run d = pure (.ok (), (name, text) :: d.filter fun entry => entry.1 != name) := by
  simp [files, h.name?_eq, h.file]

theorem run_read (d : Directory) :
    (files.read path).run d = pure ((d.lookup name).elim (.error missing) fun text => .ok text.toUTF8, d) := by
  have hbind (f : String → Except String ByteArray) : Except.ok name >>= f = f name := rfl
  cases hlookup : d.lookup name <;> simp [files, h.name?_eq, h.file, hbind, hlookup] <;> rfl

/-- Every file of the directory can be written. -/
theorem writable : files.Writable path := by
  intro text
  refine StateT.ext fun d => ?_
  simp [h.run_write, h.run_read]

end LeadsTo

end Directory

/-! ## Saving and loading -/

section Saving

variable {m : Type → Type} [Monad m] [LawfulMonad m] {files : Files m} {path : String}

/-- Saves settings, and loads settings from the same file. -/
def saveAndLoad (files : Files m) (s : Settings) (path : String) :
    m (Except SettingsError Unit × Except SettingsError Settings) := do
  let saved ← saveSettings files s path
  let loaded ← loadSettings files path
  return (saved, loaded)

/-- What is said about a file that could be written or not. -/
def savedFrom : Except String Unit → Except SettingsError Unit
  | .ok () => .ok ()
  | .error message => .error (.io message)

/-- What is loaded from a file that could be read or not. -/
def loadedFrom : Except String ByteArray → Except SettingsError Settings
  | .ok bytes => Settings.ofBytes bytes
  | .error message => .error (.io message)

theorem saveSettings_of_fits {s : Settings} (h : ∀ n ∈ s.numbers, Toml.fits n) :
    saveSettings files s path = savedFrom <$> files.write path (Toml.write s.sections) := by
  have hdocument : s.toDocument = .ok (Toml.write s.sections) := if_pos (List.all_eq_true.2 h)
  simp only [saveSettings, hdocument, map_eq_pure_bind]
  refine bind_congr fun written => ?_
  cases written <;> rfl

theorem loadSettings_eq : loadSettings files path = loadedFrom <$> files.read path := by
  simp only [loadSettings, map_eq_pure_bind]
  refine bind_congr fun found => ?_
  cases found <;> rfl

theorem fits_iff (n : Nat) : Toml.fits n ↔ n < 2 ^ 63 := by
  simp [Toml.fits]
  omega

theorem bind_savedFrom_loadedFrom (hpath : files.Writable path) (text : String) :
    (do
      let saved ← savedFrom <$> files.write path text
      let loaded ← loadedFrom <$> files.read path
      return (saved, loaded)) = (do
      let _ ← files.write path text
      let _ ← files.read path
      return (.ok (), Settings.ofBytes text.toUTF8)) := by
  have h := congrArg (Prod.map savedFrom loadedFrom <$> ·) (hpath text)
  simpa [savedFrom, loadedFrom] using h

theorem saveAndLoad_of_writable (hpath : files.Writable path) (s : Settings.Valid) (h : ∀ n ∈ s.1.numbers, n < 2 ^ 63) :
    saveAndLoad files s.1 path = (do
      let _ ← files.write path (Toml.write s.1.sections)
      let _ ← files.read path
      return (.ok (), .ok s.1)) := by
  have hfits : ∀ n ∈ s.1.numbers, Toml.fits n := fun n hn => (fits_iff n).2 (h n hn)
  rw [saveAndLoad, saveSettings_of_fits hfits, loadSettings_eq, bind_savedFrom_loadedFrom hpath,
    Settings.ofBytes_sections hfits s.2]

omit [LawfulMonad m] in
theorem saveSettings_of_not_fits {s : Settings} (h : ∃ n ∈ s.numbers, 2 ^ 63 ≤ n) :
    ∃ message, saveSettings files s path = pure (.error (.serialize message)) := by
  obtain ⟨n, hn, hlarge⟩ := h
  have hall : (s.numbers.all fun n => Toml.fits n) = false := by
    rw [List.all_eq_false]
    exact ⟨n, hn, by rw [fits_iff]; omega⟩
  refine ⟨"a number does not fit the document", ?_⟩
  simp [saveSettings, Settings.toDocument, hall]

/-- What is loaded from a file, with the proof that it is valid. -/
def validFrom (found : Except String ByteArray) : Except SettingsError Settings.Valid :=
  match h : loadedFrom found with
  | .ok s => .ok ⟨s, by
      cases found with
      | ok bytes => exact Settings.validate_of_ofBytes h
      | error message => contradiction⟩
  | .error e => .error e

theorem map_validFrom (found : Except String ByteArray) : (validFrom found).map Subtype.val = loadedFrom found := by
  unfold validFrom
  split <;> simp_all [Except.map]

/-- Valid settings whose numbers a document can hold can be saved to a file that can be written, and are then loaded
from it as they were. If a number is too large for a document, the file is not touched. Whatever a file holds, only
valid settings are loaded from it. -/
theorem settings_kept (files : Files m) (path : String) :
    (files.Writable path → ∀ s : Settings.Valid, (∀ n ∈ s.1.numbers, n < 2 ^ 63) →
      saveAndLoad files s.1 path = (do
        let _ ← files.write path (Toml.write s.1.sections)
        let _ ← files.read path
        return (.ok (), .ok s.1))) ∧
    (∀ s : Settings, (∃ n ∈ s.numbers, 2 ^ 63 ≤ n) →
      ∃ message, saveSettings files s path = pure (.error (.serialize message))) ∧
    ∃ load : Except String ByteArray → Except SettingsError Settings.Valid,
      loadSettings files path = (fun found => (load found).map Subtype.val) <$> files.read path :=
  ⟨fun hpath s h => saveAndLoad_of_writable hpath s h, fun _ h => saveSettings_of_not_fits h,
    ⟨validFrom, by simp only [loadSettings_eq, map_validFrom]⟩⟩

end Saving

namespace Directory

/-- Settings that differ from the default ones in every group, up to the largest number that a document can hold. -/
def custom : Settings.Valid := ⟨{
  pool := { maxConnectionsPerHost := 9223372036854775807, validationTimeoutMs := 1 }
  cache := { expirationSec := 60, backgroundCleanup := false }
  splitting := { readerSelection := .roundRobin, loadBalanceReaders := true }
  telemetry := { enabled := true, backend := "tracing" }
  logging := { level := "debug", format := "json" } }, by decide⟩

def oversized : Settings := { pool := { maxConnectionsPerHost := 9223372036854775808 } }

theorem settings_kept_in_directory :
    (saveAndLoad files custom.1 "router.toml").run [("notes", "n"), ("router.toml", "old")] =
        ((.ok (), .ok custom.1), [("router.toml", Toml.write custom.1.sections), ("notes", "n")]) ∧
      ∃ message, (saveSettings files oversized "router.toml").run [("router.toml", "old")] =
        (.error (.serialize message), [("router.toml", "old")]) := by
  have hpath : LeadsTo "router.toml" "router.toml" :=
    ⟨steps_of_not_mem (by decide) (by decide) (by decide), by decide, by decide +kernel, by decide +kernel⟩
  obtain ⟨hkept, hlarge, -⟩ := settings_kept files "router.toml"
  refine ⟨?_, ?_⟩
  · rw [hkept hpath.writable custom (by decide)]
    simp [hpath.run_write, hpath.run_read]
    rfl
  · obtain ⟨message, h⟩ := hlarge oversized (by decide)
    exact ⟨message, by rw [h]; rfl⟩

end Directory

end CommandLine

end ReplicaRouter
