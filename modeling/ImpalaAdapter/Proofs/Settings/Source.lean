/-
This file says which source decides a load of the settings, and that no other source counts.
-/

import ImpalaAdapter.Settings.Load
import Mathlib.Order.WellFounded

namespace ImpalaAdapter.Settings

/-- Settings come from a file that a variable names, from a file in the working directory, from a
file of the user, or from no file. -/
inductive Source where
  | named
  | workingDirectory
  | userDirectory
  | defaults
deriving DecidableEq

/-- The file of a user stands below the directory with the configuration of the user. -/
def userFile (directory : String) : String :=
  (if directory = "" ∨ directory.toList.getLast? = some '/' then directory else directory ++ "/") ++
    "mantis-impala/config.toml"

theorem joinPath_eq (directory name : String) :
    joinPath directory name =
      (if directory = "" ∨ directory.toList.getLast? = some '/' then directory
        else directory ++ "/") ++ name := by
  by_cases closed : directory = "" ∨ directory.toList.getLast? = some '/'
  · simp [joinPath, closed]
  · simp [joinPath, closed]

/-- The name of a directory does not end with a slash. -/
theorem joinPath_append_name (before : String) :
    joinPath (before ++ "mantis-impala") "config.toml" = before ++ "mantis-impala/config.toml" := by
  have last : (before ++ "mantis-impala").toList.getLast? = some 'a' := by
    rw [String.toList_append, List.getLast?_append]
    rfl
  have isOpen : ¬ (before ++ "mantis-impala" = "" ∨
      (before ++ "mantis-impala").toList.getLast? = some '/') := by
    rw [last]
    simp
  rw [joinPath_eq, if_neg isOpen, String.append_assoc, String.append_assoc]
  rfl

theorem userPath?_eq (directory? : Option String) :
    userPath? directory? = directory?.map userFile := by
  cases directory? with
  | none => rfl
  | some directory =>
      rw [userPath?, Option.map_some, Option.map_some, joinPath_eq directory,
        joinPath_append_name, userFile]

namespace Source

/-- A source with a lower rank is tried earlier. -/
def rank : Source → Nat
  | .named => 0
  | .workingDirectory => 1
  | .userDirectory => 2
  | .defaults => 3

section
variable (environment : Environment) (directory? : Option String) (files : FileSystem)

def path? : Source → Option String
  | .named => environment.read? "MANTIS_IMPALA_CONFIG"
  | .workingDirectory => some "mantis-impala.toml"
  | .userDirectory => directory?.map userFile
  | .defaults => none

/-- A file that is named is present even when it does not exist. -/
def IsPresent : Source → Prop
  | .named => ∃ path, environment.read? "MANTIS_IMPALA_CONFIG" = some path
  | .workingDirectory => ∃ entry, files.entry? "mantis-impala.toml" = some entry
  | .userDirectory => ∃ directory entry, directory? = some directory ∧
      files.entry? (userFile directory) = some entry
  | .defaults => True

/-- The first source that is present decides a load. -/
structure Decides (source : Source) : Prop where
  present : source.IsPresent environment directory? files
  first : ∀ earlier : Source, earlier.rank < source.rank →
    ¬ earlier.IsPresent environment directory? files

end

variable {environment : Environment} {directory? : Option String} {files : FileSystem}
  {source : Source}

variable (environment directory? files) in
theorem exists_decides : ∃ source, Decides environment directory? files source := by
  obtain ⟨source, present, least⟩ := (measure rank).wf.has_min
    {source | source.IsPresent environment directory? files} ⟨.defaults, trivial⟩
  refine ⟨source, present, ?_⟩
  intro earlier before earlierPresent
  exact least earlier earlierPresent before

/-- The search ends at the file of the source that decides. -/
theorem Decides.sourcePath?_eq (decides : Decides environment directory? files source) :
    sourcePath? environment directory? files = source.path? environment directory? := by
  have unnamed (later : Source.named.rank < source.rank) :
      environment.read? fileVariable = none :=
    Option.eq_none_iff_forall_ne_some.mpr fun path readable =>
      decides.first .named later ⟨path, readable⟩
  have absent (later : Source.workingDirectory.rank < source.rank) :
      ¬ files.contains localPath := fun present =>
    decides.first .workingDirectory later (Option.isSome_iff_exists.mp present)
  cases source with
  | named =>
      obtain ⟨path, readable⟩ := decides.present
      change environment.read? fileVariable = some path at readable
      change _ = environment.read? fileVariable
      rw [sourcePath?, readable]
  | workingDirectory =>
      have present : files.contains localPath := Option.isSome_iff_exists.mpr decides.present
      rw [sourcePath?, unnamed (by decide)]
      exact if_pos present
  | userDirectory =>
      obtain ⟨directory, entry, known, found⟩ := decides.present
      have present : files.contains (userFile directory) :=
        Option.isSome_iff_exists.mpr ⟨entry, found⟩
      rw [sourcePath?, unnamed (by decide), userPath?_eq, path?, known]
      dsimp only
      rw [if_neg (absent (by decide))]
      exact Option.filter_some_pos present
  | defaults =>
      have missing (path : String) (located : userPath? directory? = some path) :
          ¬ files.contains path := by
        intro present
        rw [userPath?_eq, Option.map_eq_some_iff] at located
        obtain ⟨directory, known, rfl⟩ := located
        obtain ⟨entry, found⟩ := Option.isSome_iff_exists.mp present
        exact decides.first .userDirectory (by decide) ⟨directory, entry, known, found⟩
      rw [sourcePath?, unnamed (by decide), path?]
      dsimp only
      rw [if_neg (absent (by decide)), Option.filter_eq_none_iff]
      exact missing

end Source

section
variable (decode : Decoder) (files : FileSystem)

/-- A file is loaded when it is there, holds a text and decodes. What fails first is the result, and
only a load that succeeds is reported. -/
inductive LoadsFile (path : String) : Except SettingsError Settings × List Event → Prop where
  | missing (absent : files.entry? path = none) : LoadsFile path (.error (.fileNotFound path), [])
  | unreadable {reason : String} (found : files.entry? path = some (.unreadable reason)) :
      LoadsFile path (.error (.unreadable reason), [])
  | directory (found : files.entry? path = some .directory) :
      LoadsFile path (.error (.unreadable "Is a directory (os error 21)"), [])
  | malformed {content reason : String} (found : files.entry? path = some (.text content))
      (refused : decode content = .error reason) :
      LoadsFile path (.error (.malformed reason), [])
  | loaded {content : String} {settings : Settings}
      (found : files.entry? path = some (.text content))
      (decoded : decode content = .ok settings) :
      LoadsFile path (.ok settings, [{
        severity := .debug
        message := "loaded settings"
        fields := [("path", path), ("connections", toString settings.connections.size)] }])

/-- A source gives what its file gives, or the default settings when it has no file. -/
inductive Source.Gives (environment : Environment) (directory? : Option String) :
    Source → Except SettingsError Settings × List Event → Prop where
  | file {source : Source} {path : String} {result : Except SettingsError Settings × List Event}
      (located : source.path? environment directory? = some path)
      (loads : LoadsFile decode files path result) : Gives environment directory? source result
  | defaults :
      Gives environment directory? .defaults
        (.ok { connections := ∅, loggingLevel := "warn" }, [])

end

section
variable {decode : Decoder} {environment : Environment} {directory? : Option String}
  {files : FileSystem} {source : Source} {result : Except SettingsError Settings × List Event}

theorem LoadsFile.finish_eq {path : String} (loads : LoadsFile decode files path result) :
    (loadPath decode files path).finish = result := by
  cases loads with
  | missing absent =>
      rw [loadPath, readText, absent]
      rfl
  | unreadable found | directory found =>
      rw [loadPath, readText, found]
      rfl
  | malformed found refused =>
      simp only [loadPath, readText, found, FileEntry.read, pure_bind, decodeText, refused]
      rfl
  | loaded found decoded =>
      simp only [loadPath, readText, found, FileEntry.read, pure_bind, decodeText, decoded]
      rfl

variable (decode files) in
theorem exists_loadsFile (path : String) : ∃ result, LoadsFile decode files path result := by
  cases found : files.entry? path with
  | none => exact ⟨_, .missing found⟩
  | some entry =>
      cases entry with
      | text content =>
          cases decoded : decode content with
          | error reason => exact ⟨_, .malformed found decoded⟩
          | ok settings => exact ⟨_, .loaded found decoded⟩
      | unreadable reason => exact ⟨_, .unreadable found⟩
      | directory => exact ⟨_, .directory found⟩

theorem loadsFile_iff {path : String} :
    LoadsFile decode files path result ↔ (loadPath decode files path).finish = result := by
  constructor
  · exact LoadsFile.finish_eq
  · intro finished
    obtain ⟨given, loads⟩ := exists_loadsFile decode files path
    rwa [← finished, loads.finish_eq]

/-- The rest of the file system is not looked at. -/
theorem LoadsFile.congr {path : String} {other : FileSystem}
    (same : other.entry? path = files.entry? path) (loads : LoadsFile decode files path result) :
    LoadsFile decode other path result := by
  cases loads with
  | missing absent => exact .missing (same.trans absent)
  | unreadable found => exact .unreadable (same.trans found)
  | directory found => exact .directory (same.trans found)
  | malformed found refused => exact .malformed (same.trans found) refused
  | loaded found decoded => exact .loaded (same.trans found) decoded

namespace Source

/-- Every source that decides has a file, the defaults excepted. -/
theorem Decides.eq_defaults (decides : Decides environment directory? files source)
    (nowhere : source.path? environment directory? = none) : source = .defaults := by
  cases source with
  | named =>
      obtain ⟨path, readable⟩ := decides.present
      exact nomatch readable.symm.trans nowhere
  | workingDirectory => cases nowhere
  | userDirectory =>
      obtain ⟨directory, _, rfl, _⟩ := decides.present
      cases nowhere
  | defaults => rfl

theorem Decides.gives_iff (decides : Decides environment directory? files source) :
    Gives decode files environment directory? source result ↔
      (loadFirst decode environment directory? files).finish = result := by
  rw [loadFirst, decides.sourcePath?_eq]
  cases located : source.path? environment directory? with
  | some path =>
      dsimp only
      rw [← loadsFile_iff]
      constructor
      · intro gives
        cases gives with
        | file found loads =>
            rw [located, Option.some_inj] at found
            rwa [found]
        | defaults => cases located
      · exact Gives.file located
  | none =>
      obtain rfl := decides.eq_defaults located
      constructor
      · intro gives
        cases gives with
        | file found loads => cases found
        | defaults => rfl
      · intro finished
        rw [← finished]
        exact .defaults

/-- A source that decides in one file system decides in every other one that has the same file for
it and nothing earlier. -/
theorem Decides.congr {other : FileSystem} (decides : Decides environment directory? files source)
    (same : ∀ path, source.path? environment directory? = some path →
      other.entry? path = files.entry? path)
    (nothingEarlier : ∀ earlier : Source, earlier.rank < source.rank →
      ¬ earlier.IsPresent environment directory? other) :
    Decides environment directory? other source := by
  refine ⟨?_, nothingEarlier⟩
  cases source with
  | named => exact decides.present
  | workingDirectory =>
      obtain ⟨entry, found⟩ := decides.present
      exact ⟨entry, (same _ rfl).trans found⟩
  | userDirectory =>
      obtain ⟨directory, entry, known, found⟩ := decides.present
      have located : userDirectory.path? environment directory? = some (userFile directory) := by
        rw [path?, known, Option.map_some]
      exact ⟨directory, entry, known, (same _ located).trans found⟩
  | defaults => trivial

theorem Gives.congr {other : FileSystem}
    (same : ∀ path, source.path? environment directory? = some path →
      other.entry? path = files.entry? path)
    (gives : Gives decode files environment directory? source result) :
    Gives decode other environment directory? source result := by
  cases gives with
  | file located loads => exact .file located (loads.congr (same _ located))
  | defaults => exact .defaults

/-- Only the file that the variable names can be missing, because the other files are looked for
before they are loaded. -/
theorem Decides.eq_named {path : String} (decides : Decides environment directory? files source)
    (located : source.path? environment directory? = some path)
    (absent : files.entry? path = none) : source = .named := by
  cases source with
  | named => rfl
  | workingDirectory =>
      cases located
      obtain ⟨entry, found⟩ := decides.present
      exact nomatch found.symm.trans absent
  | userDirectory =>
      obtain ⟨directory, entry, rfl, found⟩ := decides.present
      cases located
      exact nomatch found.symm.trans absent
  | defaults => cases located

theorem Gives.missing {path : String} (decides : Decides environment directory? files source)
    (gives : Gives decode files environment directory? source result)
    (failed : result.1 = .error (.fileNotFound path)) :
    environment.read? "MANTIS_IMPALA_CONFIG" = some path ∧ files.entry? path = none := by
  cases gives with
  | file located loads =>
      cases loads with
      | missing absent =>
          cases failed
          obtain rfl := decides.eq_named located absent
          exact ⟨located, absent⟩
      | unreadable | directory | malformed | loaded => cases failed
  | defaults => cases failed

theorem Gives.events_of_error {failure : SettingsError}
    (gives : Gives decode files environment directory? source result)
    (failed : result.1 = .error failure) : result.2 = [] := by
  cases gives with
  | file located loads =>
      cases loads with
      | missing | unreadable | directory | malformed => rfl
      | loaded => cases failed
  | defaults => rfl

end Source

end

/-- The first source that is present decides a load, and its failure is the failure of the load. No
other file counts. Only the file that the variable names can be missing, and a load that fails
reports nothing. -/
theorem loadFirst_decided (decode : Decoder) (environment : Environment)
    (directory? : Option String) :
    (∀ (files : FileSystem) (result : Except SettingsError Settings × List Event),
      (loadFirst decode environment directory? files).finish = result ↔
        ∃ source : Source, source.Decides environment directory? files ∧
          source.Gives decode files environment directory? result) ∧
    (∀ (files other : FileSystem) (source : Source),
      source.Decides environment directory? files →
      (∀ path, source.path? environment directory? = some path →
        other.entry? path = files.entry? path) →
      (∀ earlier : Source, earlier.rank < source.rank →
        ¬ earlier.IsPresent environment directory? other) →
        (loadFirst decode environment directory? other).finish =
          (loadFirst decode environment directory? files).finish) ∧
    (∀ (files : FileSystem) (path : String),
      (loadFirst decode environment directory? files).finish.1 = .error (.fileNotFound path) →
        environment.read? "MANTIS_IMPALA_CONFIG" = some path ∧ files.entry? path = none) ∧
    ∀ (files : FileSystem) (failure : SettingsError),
      (loadFirst decode environment directory? files).finish.1 = .error failure →
        (loadFirst decode environment directory? files).finish.2 = [] := by
  have decided (files : FileSystem) : ∃ source : Source,
      source.Decides environment directory? files ∧
        source.Gives decode files environment directory?
          (loadFirst decode environment directory? files).finish := by
    obtain ⟨source, decides⟩ := Source.exists_decides environment directory? files
    exact ⟨source, decides, decides.gives_iff.mpr rfl⟩
  refine ⟨?_, ?_, ?_, ?_⟩
  · intro files result
    constructor
    · rintro rfl
      exact decided files
    · rintro ⟨source, decides, gives⟩
      exact decides.gives_iff.mp gives
  · intro files other source decides same nothingEarlier
    have otherDecides := decides.congr same nothingEarlier
    have gives := decides.gives_iff.mpr
      (Eq.refl (loadFirst decode environment directory? files).finish)
    exact otherDecides.gives_iff.mp (gives.congr same)
  · intro files path failed
    obtain ⟨source, decides, gives⟩ := decided files
    exact gives.missing decides failed
  · intro files failure failed
    obtain ⟨source, decides, gives⟩ := decided files
    exact gives.events_of_error failed

/-- The variable holds no text, so it names no file. -/
def bytesEnvironment : Environment :=
  .ofList [("MANTIS_IMPALA_CONFIG", .bytes "?")]

def misleadingEnvironment : Environment :=
  .ofList [("MANTIS_IMPALA_CONFIG", .text "gone.toml")]

def knownDirectory? : Option String :=
  some "/home/me/.config"

def userText : String :=
  "[logging]\nlevel = \"debug\"\n"

def tomlDecoder : Decoder :=
  ofToml fun _ => "expected a table"

/-- Only the user has a file. -/
def userFiles : FileSystem where
  entry? path :=
    if path = "/home/me/.config/mantis-impala/config.toml" then some (.text userText) else none

/-- A directory stands in the place of the local file. -/
def bareFiles : FileSystem where
  entry? path := if path = "mantis-impala.toml" then some .directory else none

def furnishedFiles : FileSystem where
  entry? path := (bareFiles.entry? path).or (userFiles.entry? path)

theorem exists_settings_userText : ∃ settings, tomlDecoder userText = .ok settings ∧
    settings.loggingLevel = "debug" ∧ settings.connections.size = 0 := by
  have decoded : (tomlDecoder userText).map
      (fun settings => (settings.loggingLevel, settings.connections.size)) = .ok ("debug", 0) := by
    decide +kernel
  cases outcome : tomlDecoder userText with
  | error reason =>
      rw [outcome] at decoded
      cases decoded
  | ok settings =>
      rw [outcome] at decoded
      obtain ⟨level, size⟩ := Prod.mk.inj (Except.ok.inj decoded)
      exact ⟨settings, rfl, level, size⟩

theorem Source.not_isPresent_before_workingDirectory {earlier : Source} (files : FileSystem)
    (before : earlier.rank < Source.workingDirectory.rank) :
    ¬ earlier.IsPresent bytesEnvironment knownDirectory? files := by
  cases earlier with
  | named =>
      rintro ⟨path, readable⟩
      cases readable
  | workingDirectory | userDirectory | defaults => exact absurd before (by decide)

theorem decides_userFiles :
    Source.userDirectory.Decides bytesEnvironment knownDirectory? userFiles where
  present := ⟨_, _, rfl, rfl⟩
  first := by
    intro earlier before
    cases earlier with
    | named => exact Source.not_isPresent_before_workingDirectory userFiles (by decide)
    | workingDirectory =>
        rintro ⟨entry, found⟩
        cases found
    | userDirectory | defaults => exact absurd before (by decide)

theorem decides_furnishedFiles :
    Source.workingDirectory.Decides bytesEnvironment knownDirectory? furnishedFiles where
  present := ⟨_, rfl⟩
  first _ := Source.not_isPresent_before_workingDirectory furnishedFiles

/-- The file of the user is loaded when it is the first one, and it counts neither behind a local
directory nor behind a named file that is missing. -/
theorem loadFirst_decided_furnished :
    (∃ settings : Settings, settings.loggingLevel = "debug" ∧
      (loadFirst tomlDecoder bytesEnvironment knownDirectory? userFiles).finish =
        (.ok settings, [{
          severity := .debug
          message := "loaded settings"
          fields := [("path", "/home/me/.config/mantis-impala/config.toml"),
            ("connections", "0")] }])) ∧
    (Source.workingDirectory.Decides bytesEnvironment knownDirectory? furnishedFiles ∧
      (loadFirst tomlDecoder bytesEnvironment knownDirectory? furnishedFiles).finish =
        (.error (.unreadable "Is a directory (os error 21)"), []) ∧
      (loadFirst tomlDecoder bytesEnvironment knownDirectory? bareFiles).finish =
        (loadFirst tomlDecoder bytesEnvironment knownDirectory? furnishedFiles).finish) ∧
    (loadFirst tomlDecoder misleadingEnvironment knownDirectory? furnishedFiles).finish.1 =
        .error (.fileNotFound "gone.toml") ∧
      misleadingEnvironment.read? "MANTIS_IMPALA_CONFIG" = some "gone.toml" ∧
      (loadFirst tomlDecoder misleadingEnvironment knownDirectory? furnishedFiles).finish.2 =
        [] := by
  have bytes := loadFirst_decided tomlDecoder bytesEnvironment knownDirectory?
  have misled := loadFirst_decided tomlDecoder misleadingEnvironment knownDirectory?
  refine ⟨?_, ⟨decides_furnishedFiles, ?_, ?_⟩, ?_⟩
  · obtain ⟨settings, decoded, level, size⟩ := exists_settings_userText
    have loaded : LoadsFile tomlDecoder userFiles "/home/me/.config/mantis-impala/config.toml" _ :=
      .loaded rfl decoded
    rw [size] at loaded
    exact ⟨settings, level, (bytes.1 userFiles _).mpr
      ⟨.userDirectory, decides_userFiles, .file rfl loaded⟩⟩
  · exact (bytes.1 furnishedFiles _).mpr
      ⟨.workingDirectory, decides_furnishedFiles, .file rfl (.directory rfl)⟩
  · apply bytes.2.1 furnishedFiles bareFiles _ decides_furnishedFiles
    · intro path located
      cases located
      rfl
    · intro earlier
      exact Source.not_isPresent_before_workingDirectory bareFiles
  · have named : Source.named.Decides misleadingEnvironment knownDirectory? furnishedFiles :=
      ⟨⟨"gone.toml", rfl⟩, fun earlier before => absurd before (Nat.not_lt_zero _)⟩
    have missing :
        (loadFirst tomlDecoder misleadingEnvironment knownDirectory? furnishedFiles).finish =
          (.error (.fileNotFound "gone.toml"), []) :=
      (misled.1 furnishedFiles _).mpr ⟨.named, named, .file rfl (.missing rfl)⟩
    have failed := congrArg Prod.fst missing
    exact ⟨failed, (misled.2.2.1 furnishedFiles _ failed).1, misled.2.2.2 furnishedFiles _ failed⟩

end ImpalaAdapter.Settings
