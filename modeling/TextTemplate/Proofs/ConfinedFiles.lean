import TextTemplate.Proofs.FilePlaces
import TextTemplate.Proofs.LoadedTexts

/-!
Files that a loader of directories gives out. A name that is not absolute and never goes up
further than it has come down stands for a file at or below one of the directories, wherever
the steps in between lead. Nothing keeps other names there: an absolute name stands for itself,
and one that goes up leaves the directory.
-/
namespace TextTemplate

namespace FileTree

/-- The path leads to a file, and the place of that file is at or below one of the directories. -/
structure LiesBelow (files : FileTree) (dirs : List String) (path : String) : Prop where
  file : ∃ bytes, files.descend? (Path.place path) = some (.file bytes)
  dir : ∃ dir ∈ dirs, Path.place dir <+: Path.place path

/-- What is a file by its path is a file at the place of the path. -/
theorem exists_file_of_isFile {files : FileTree} {path : String} (h : files.isFile path = true) :
    ∃ bytes, files.descend? (Path.place path) = some (.file bytes) := by
  unfold isFile at h
  split at h
  · rename_i bytes hfind
    exact ⟨bytes, descend?_place hfind⟩
  · simp at h

end FileTree

namespace Loader

variable {files : FileTree} {dirs : List String} {name : String}

/-- A name that never climbs leads from a directory to a place below it. -/
theorem liesBelow_findFile (hname : Path.isAbsolute name = false)
    (hbelow : Path.staysBelow 0 (Path.names name) = true) {path : String}
    (h : findFile files dirs name = some path) : files.LiesBelow dirs path := by
  have hfile : files.isFile path = true := List.find?_some h
  obtain ⟨dir, hdir, rfl⟩ := List.mem_map.1 (List.mem_of_find?_eq_some h)
  exact ⟨FileTree.exists_file_of_isFile hfile, dir, hdir, Path.place_prefix_join hname hbelow⟩

/-- For a relative name that stays below, a loader of directories claims, reads and addresses
only files at or below its directories. -/
theorem directories_confined (hname : Path.isAbsolute name = false)
    (hbelow : Path.staysBelow 0 (Path.names name) = true) :
    let loader := directories files dirs
    (loader.canLoad name = true →
        ∃ path, findFile files dirs name = some path ∧ files.LiesBelow dirs path) ∧
      (∀ (engine : Engine) (template : Template),
        engine.loadFrom loader name = .ok (some template) →
          ∃ path text, files.LiesBelow dirs path ∧ files.readText path = some text ∧
            engine.compile name text = .ok template) ∧
      ∀ path, loader.mediaUri name = some path → files.LiesBelow dirs path := by
  intro loader
  refine ⟨?_, ?_, ?_⟩
  · intro hclaims
    obtain ⟨path, hpath⟩ := Option.isSome_iff_exists.1 hclaims
    exact ⟨path, hpath, liesBelow_findFile hname hbelow hpath⟩
  · intro engine template hload
    obtain ⟨text, hcontent, hcompile⟩ := Engine.exists_text_of_loadFrom hload
    obtain ⟨path, hpath, htext⟩ := Option.bind_eq_some_iff.1 hcontent
    exact ⟨path, text, liesBelow_findFile hname hbelow hpath, htext, hcompile⟩
  · intro path haddress
    exact liesBelow_findFile hname hbelow haddress

def besideSecret : FileTree :=
  .directory
    [("secret.txt", .file "key".toUTF8),
      ("site", .directory [("page.txt", .file "page".toUTF8), ("parts", .directory [])])]

theorem directories_confined_back :
    let loader := directories besideSecret ["/site"]
    loader.canLoad "parts/../page.txt" = true ∧
      loader.mediaUri "parts/../page.txt" = some "/site/parts/../page.txt" ∧
      besideSecret.LiesBelow ["/site"] "/site/parts/../page.txt" := by
  intro loader
  obtain ⟨-, -, haddress⟩ :=
    @directories_confined besideSecret ["/site"] "parts/../page.txt" rfl rfl
  exact ⟨rfl, rfl, haddress "/site/parts/../page.txt" rfl⟩

/-- Neither a name that goes up out of the directory nor an absolute one is kept below it: the
loader claims both, addresses both and gives the text of the secret for both. -/
theorem directories_climbing :
    let loader := directories besideSecret ["/site"]
    (loader.canLoad "../secret.txt" = true ∧
        loader.mediaUri "../secret.txt" = some "/site/../secret.txt" ∧
        loader.content "../secret.txt" = some "key" ∧
        ¬ besideSecret.LiesBelow ["/site"] "/site/../secret.txt") ∧
      loader.canLoad "/secret.txt" = true ∧
        loader.mediaUri "/secret.txt" = some "/secret.txt" ∧
        loader.content "/secret.txt" = some "key" ∧
        ¬ besideSecret.LiesBelow ["/site"] "/secret.txt" := by
  have houtside : ∀ path : String, Path.place path = ["secret.txt"] →
      ¬ besideSecret.LiesBelow ["/site"] path := by
    intro path hplace hbelow
    obtain ⟨dir, hdir, hprefix⟩ := hbelow.dir
    obtain rfl := List.mem_singleton.1 hdir
    have hsite : Path.place "/site" = ["site"] := rfl
    rw [hsite, hplace] at hprefix
    exact absurd hprefix (by decide)
  exact ⟨⟨rfl, rfl, rfl, houtside _ rfl⟩, rfl, rfl, rfl, houtside _ rfl⟩

end Loader

end TextTemplate
