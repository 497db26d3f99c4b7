import Mathlib
import PagedQuery.Proofs.NameMap
import PagedQuery.Proofs.Outcome
import PagedQuery.Proofs.Settings.Spelling
import PagedQuery.Settings.Load

/-!
# Where loaded texts come from

The keys and values of the file and of the environment are one list of bindings, in which a later
binding of a key goes before an earlier one. So what a setting is taken from is found by going
through the list from its end (`Settings.text?_of_ofEntries?`): the last variable that is meant for
it, else the last place in the file that gives it, else its default. Keys that lead inside others
cannot come in between, since they would make the setting a compound value, and the settings would
not load.

* `TextSetting`: the settings that are texts;
* `Settings.environmentText?`, `Settings.fileValue?`: what the environment and the file have for a
  key;
* `Settings.load_eq_ok_iff`: what is loaded makes sense;
* `environment_texts_respelled`: a variable gives its text in the spelling of what it reads as,
  which need not be its own (`leadingZeros_lost`).
-/

namespace PagedQuery

/-- The settings that are texts. -/
inductive TextSetting
  | database
  | listen
  | seed
  | log

/-- The key of a setting. -/
def TextSetting.key : TextSetting → String
  | database => "database"
  | listen => "listen"
  | seed => "seed"
  | log => "log"

theorem TextSetting.outer?_key (t : TextSetting) : SettingKey.outer? t.key = none := by
  cases t <;> decide

namespace Settings

variable {settings : Settings} {entries : List (String × SettingValue)} {key : String}
  {file : Option SettingsFile} {environment : List (String × String)}

/-- The text of a setting. Only the seed may be missing. -/
def text? (settings : Settings) : TextSetting → Option String
  | .database => some settings.database
  | .listen => some settings.listen
  | .seed => settings.seed
  | .log => some settings.log

/-- The text of the variable for a key, the last one if there are several. -/
def environmentText? (environment : List (String × String)) (key : String) : Option String :=
  (environment.reverse.find? fun v => environmentKey? v.1 = some key).map Prod.snd

/-- The value that a file gives for a key, the last one if there are several. -/
def fileValue? (file : Option SettingsFile) (key : String) : Option SettingValue :=
  (file.bind SettingsFile.entries?).bind fun entries => entries.reverse.lookup key

/-- The text that a setting has if a value or none was found for it. -/
def taken? : TextSetting → Option SettingValue → Option (Option String)
  | t, none => some (default.text? t)
  | .seed, some .nothing => some none
  | _, some v => v.text?.map some

/-! ## One list of bindings -/

/-- A key that leads inside another one is passed over, or the other one is a compound value. -/
theorem lookup_map_outermost (hkey : SettingKey.outer? key = none)
    (h : (entries.map outermost).lookup key ≠ some .compound) :
    (entries.map outermost).lookup key = entries.lookup key := by
  induction entries with
  | nil => rfl
  | cons entry entries ih =>
    obtain ⟨k, v⟩ := entry
    rw [List.map_cons] at h ⊢
    cases houter : SettingKey.outer? k with
    | none =>
      have hentry : outermost (k, v) = (k, v) := by rw [outermost, houter]
      rw [hentry, List.lookup_cons] at h
      rw [hentry, List.lookup_cons, List.lookup_cons]
      split at h
      · rfl
      · exact ih h
    | some outer =>
      have hentry : outermost (k, v) = (outer, .compound) := by rw [outermost, houter]
      have hne : key ≠ k := by
        rintro rfl
        rw [hkey] at houter
        cases houter
      rw [hentry, List.lookup_cons] at h
      rw [hentry, List.lookup_cons, List.lookup_cons, beq_eq_false_iff_ne.2 hne]
      split at h
      · exact absurd rfl h
      · exact ih h

theorem lookup_environmentEntries :
    (environmentEntries environment).reverse.lookup key =
      (environmentText? environment key).map SettingValue.ofEnvironment := by
  rw [environmentEntries, environmentText?, ← List.filterMap_reverse]
  induction environment.reverse with
  | nil => rfl
  | cons v rest ih =>
    obtain ⟨name, text⟩ := v
    cases hname : environmentKey? name with
    | none =>
      rw [List.filterMap_cons_none (by simp [hname]), List.find?_cons_of_neg (by simp [hname]), ih]
    | some k =>
      rw [List.filterMap_cons_some (b := (k, .ofEnvironment text)) (by simp [hname])]
      by_cases hk : k = key
      · subst hk
        rw [List.lookup_cons_self, List.find?_cons_of_pos (by simp [hname])]
        rfl
      · rw [List.lookup_cons, beq_eq_false_iff_ne.2 (Ne.symm hk),
          List.find?_cons_of_neg (by simpa [hname] using hk)]
        exact ih

/-! ## What is taken from the bindings -/

variable {t : TextSetting} {found : Option SettingValue} {text d : String} {taken : Option String}

theorem taken?_eq_some_some (ht : t ≠ .seed) (hd : default.text? t = some d)
    (h : found.elim (some d) SettingValue.text? = some text) :
    taken? t found = some (some text) := by
  cases found with
  | none => rw [taken?, hd, show some d = some text from h]
  | some v =>
    rw [taken?, show v.text? = some text from h]
    · rfl
    · rintro rfl
      exact absurd rfl ht

theorem eq_of_taken? (h : taken? t found = some taken) :
    taken = found.elim (default.text? t) SettingValue.text? ∧ found ≠ some .compound := by
  unfold taken? at h
  split at h
  · cases h
    exact ⟨rfl, nofun⟩
  · cases h
    exact ⟨rfl, nofun⟩
  · next v _ =>
    obtain ⟨u, hu, rfl⟩ := Option.map_eq_some_iff.1 h
    refine ⟨hu.symm, ?_⟩
    rintro ⟨⟩
    cases hu

theorem taken?_of_ofEntries? (h : ofEntries? entries = some settings) (t : TextSetting) :
    taken? t ((NameMap.ofList (entries.map outermost)).get? t.key) = some (settings.text? t) := by
  rw [ofEntries?] at h
  generalize NameMap.ofList (entries.map outermost) = found at h ⊢
  have hseed : ∃ seed, taken? .seed (found.get? "seed") = some seed ∧ (do
      return {
        database := ← (found.get? "database").elim (some default.database) SettingValue.text?
        listen := ← (found.get? "listen").elim (some default.listen) SettingValue.text?
        defaultPageSize := ← (found.get? "default_page_size").elim (some default.defaultPageSize)
          SettingValue.size?
        maxPageSize := ← (found.get? "max_page_size").elim (some default.maxPageSize)
          SettingValue.size?
        seed
        log := ← (found.get? "log").elim (some default.log) SettingValue.text? }) =
      some settings := by
    split at h
    · next hnone => exact ⟨none, by rw [hnone]; rfl, h⟩
    · next hnothing => exact ⟨none, by rw [hnothing]; rfl, h⟩
    · next v hsome hv =>
      obtain ⟨seed, hseed, h⟩ := Option.bind_eq_some_iff.1 h
      refine ⟨seed, ?_, h⟩
      rw [hv, taken?, hseed]
      rintro - rfl
      exact hsome rfl
  obtain ⟨seed, hseed, h⟩ := hseed
  obtain ⟨database, hdatabase, h⟩ := Option.bind_eq_some_iff.1 h
  obtain ⟨listen, hlisten, h⟩ := Option.bind_eq_some_iff.1 h
  obtain ⟨_, -, h⟩ := Option.bind_eq_some_iff.1 h
  obtain ⟨_, -, h⟩ := Option.bind_eq_some_iff.1 h
  obtain ⟨log, hlog, h⟩ := Option.bind_eq_some_iff.1 h
  cases h
  cases t with
  | database => exact taken?_eq_some_some nofun rfl hdatabase
  | listen => exact taken?_eq_some_some nofun rfl hlisten
  | seed => exact hseed
  | log => exact taken?_eq_some_some nofun rfl hlog

/-- A setting is taken from the last binding of its key, and has its default if there is none. -/
theorem text?_of_ofEntries? (h : ofEntries? entries = some settings) (t : TextSetting) :
    settings.text? t =
      (entries.reverse.lookup t.key).elim (default.text? t) SettingValue.text? := by
  obtain ⟨htext, hcompound⟩ := eq_of_taken? (taken?_of_ofEntries? h t)
  rw [NameMap.get?_ofList, ← List.map_reverse] at htext hcompound
  rw [htext, lookup_map_outermost t.outer?_key hcompound]

/-! ## What is loaded -/

theorem load_eq_ok_iff : load file environment = .ok settings ↔
    read? file environment = some settings ∧ settings.validate = .ok () := by
  rw [load]
  cases read? file environment with
  | none => exact ⟨nofun, nofun⟩
  | some s =>
    constructor
    · intro h
      obtain ⟨⟨⟩, hvalid, h⟩ := bind_eq_ok.1 h
      cases h
      exact ⟨rfl, hvalid⟩
    · rintro ⟨⟨⟩, hvalid⟩
      exact bind_eq_ok.2 ⟨(), hvalid, rfl⟩

theorem read?_eq_some_iff : read? file environment = some settings ↔
    ∃ entries, file.elim (some []) SettingsFile.entries? = some entries ∧
      ofEntries? (entries ++ environmentEntries environment) = some settings :=
  Option.bind_eq_some_iff

theorem fileValue?_eq (h : file.elim (some []) SettingsFile.entries? = some entries)
    (key : String) : fileValue? file key = entries.reverse.lookup key := by
  cases file with
  | none =>
    cases h
    rfl
  | some file => rw [fileValue?, Option.bind_some, show file.entries? = some entries from h]; rfl

/-- A setting is taken from its variable, or from the file if there is none. -/
theorem text?_of_load (h : load file environment = .ok settings) (t : TextSetting) :
    settings.text? t = (((environmentText? environment t.key).map SettingValue.ofEnvironment).or
      (fileValue? file t.key)).elim (default.text? t) SettingValue.text? := by
  obtain ⟨entries, hentries, h⟩ := read?_eq_some_iff.1 (load_eq_ok_iff.1 h).1
  rw [text?_of_ofEntries? h, List.reverse_append, List.lookup_append, lookup_environmentEntries,
    fileValue?_eq hentries]

end Settings

open Settings

/-- A setting that is a text is the text of its variable in the spelling of what this reads as, and
    it is the text as it stands exactly if this is the spelling that it has. Without a variable it
    is what the file says, or the default. -/
theorem environment_texts_respelled {file : Option SettingsFile}
    {environment : List (String × String)} {settings : Settings}
    (h : load file environment = .ok settings) :
    settings.validate = .ok () ∧ ∀ t : TextSetting,
      (∀ s, environmentText? environment t.key = some s →
        (∃ u, settings.text? t = some u ∧ SettingValue.Respells s u) ∧
        (settings.text? t = some s ↔ SettingValue.Respells s s) ∧
        ∀ c ∈ s.toList, ¬IsGuessed c → settings.text? t = some s) ∧
      (environmentText? environment t.key = none →
        settings.text? t = (fileValue? file t.key).elim (default.text? t) SettingValue.text?) := by
  refine ⟨(load_eq_ok_iff.1 h).2, fun t => ⟨fun s hs => ?_, fun hnone => ?_⟩⟩
  · have htext : settings.text? t = (SettingValue.ofEnvironment s).text? := by
      rw [text?_of_load h, hs]
      rfl
    rw [htext, SettingValue.text?_ofEnvironment_eq_some_iff]
    obtain ⟨u, hu⟩ := SettingValue.exists_respells s
    refine ⟨⟨u, SettingValue.text?_ofEnvironment_eq_some_iff.2 hu, hu⟩, .rfl, ?_⟩
    exact fun c hc hguessed => SettingValue.respells_self_of_mem hc hguessed
  · rw [text?_of_load h, hnone]
    rfl

/-- A file with an address and a seed, and variables for the database and for what is logged. -/
theorem dataPath_loaded :
    let file := some (SettingsFile.json
      "\x7b\"listen\": \"[::1]:8080\", \"seed\": \"007.json\"\x7d")
    let environment := [("PAGEWISE_DATABASE", "/data/0042.db"), ("Pagewise_Log", "TRUE")]
    ∃ settings, load file environment = .ok settings ∧
      settings.validate = .ok () ∧
      settings.text? .database = some "/data/0042.db" ∧
      settings.text? .log = some "true" ∧ SettingValue.Respells "TRUE" "true" ∧
      settings.text? .listen = some "[::1]:8080" ∧
      settings.text? .seed = some "007.json" := by
  intro file environment
  have hload : load file environment = .ok
      { default with
        database := "/data/0042.db"
        listen := "[::1]:8080"
        seed := some "007.json"
        log := "true" } := by
    decide +kernel
  obtain ⟨hvalid, htexts⟩ := environment_texts_respelled hload
  obtain ⟨-, -, hdatabase⟩ := (htexts .database).1 "/data/0042.db" (by decide)
  obtain ⟨⟨log, hlog, hrespells⟩, -⟩ := (htexts .log).1 "TRUE" (by decide)
  cases hlog
  refine ⟨_, hload, hvalid, hdatabase '/' (by decide) (by decide), rfl, hrespells, ?_, ?_⟩
  · exact ((htexts .listen).2 (by decide)).trans (by decide +kernel)
  · exact ((htexts .seed).2 (by decide)).trans (by decide +kernel)

/-- Leading zeros are lost, whatever the text is for. -/
theorem leadingZeros_lost :
    ¬∀ (file : Option SettingsFile) (environment : List (String × String)) (settings : Settings),
      load file environment = .ok settings → ∀ (t : TextSetting) (s : String),
        environmentText? environment t.key = some s → s ≠ "" → settings.text? t = some s := by
  intro h
  have hload : load none [("PAGEWISE_DATABASE", "0042")] =
      .ok { default with database := "42" } := by
    decide +kernel
  exact absurd (h _ _ _ hload .database "0042" (by decide) (by decide)) (by decide)

end PagedQuery
