import CssMinifier.Proofs.Job.Finishing

/-! Runs in either order. A finished run over a file rests on the directories and on the bytes
of its own input, so two runs that keep off each other's files can be done in either order.
-/

namespace CssMinifier.Job

open CssMinifier.Encoding

-----------------------------------------------------------------------------------------
-- Runs that keep off each other's files
-----------------------------------------------------------------------------------------

/-- Two runs over files, of which neither writes where the other reads or writes. They may
read the same file, and each may replace its own input.
-/
structure Independent (one other : Job) (disk : Disk) : Prop where
  near : Source.isRemote one.input = false
  near' : Source.isRemote other.input = false
  offInput : ∀ path, one.target = .ok path → disk.Apart path (Path.parse other.input)
  offInput' : ∀ path, other.target = .ok path → disk.Apart path (Path.parse one.input)
  offOutput
    : ∀ path path',
        one.target = .ok path → other.target = .ok path' → disk.Apart path path'

/-- The places of the two files of a run over a file. -/
structure Places (job : Job) (disk : Disk) (source target : Location) : Prop where
  near : Source.isRemote job.input = false
  source : disk.locate (Path.parse job.input) = .ok source
  target : ∃ path, job.target = .ok path ∧ disk.locate path = .ok target

/-- A run writes off a path that leads to another place. -/
theorem Places.off {job : Job} {disk : Disk} {source target place : Location}
    (h : job.Places disk source target) {other : Path} (leads : disk.locate other = .ok place)
    (ne : target ≠ place) {path : Path} (named : job.target = .ok path)
    : disk.Apart path other := by
  obtain ⟨output, named', found⟩ := h.target
  obtain rfl : output = path := Except.ok.inj (named'.symm.trans named)
  exact Disk.apart_of_ne found leads ne

/-- Runs are independent if their inputs and outputs are at four places. -/
theorem Places.independent {one other : Job} {disk : Disk}
    {source target source' target' : Location} (h : one.Places disk source target)
    (h' : other.Places disk source' target')
    (places : [source, target, source', target'].Nodup)
    : one.Independent other disk := by
  simp only [List.nodup_cons, List.mem_cons, List.not_mem_nil, or_false, not_or] at places
  obtain ⟨⟨_, _, ne⟩, ⟨ne', ne''⟩, _⟩ := places
  refine ⟨h.near, h'.near, fun path named => ?_, fun path named => ?_, ?_⟩
  · exact h.off h'.source ne' named
  · exact h'.off h.source (Ne.symm ne) named
  · intro path path' named named'
    obtain ⟨output, known, found⟩ := h'.target
    obtain rfl : output = path' := Except.ok.inj (known.symm.trans named')
    exact h.off found ne'' named

-----------------------------------------------------------------------------------------
-- What a run over a file rests on
-----------------------------------------------------------------------------------------

/-- A finished run over a file, by the place and the bytes that it has written. It writes the
same to every tree with the same directories and the same input.
-/
structure Rewrites (job : Job) (machine : Machine) (disk : Disk) (web : Web) (report : Report)
    (location : Location) (written : Bytes)
    : Prop where
  target : job.target = .ok report.output
  writable : disk.writable report.output = .ok location
  moved
    : ∀ other,
        disk.SameDirectories other
        → other.file? (Path.parse job.input) = disk.file? (Path.parse job.input)
        → job.Finishes machine other web report (other.put location (.file written))

theorem Finishes.rewrites {job : Job} {machine : Machine} {disk after : Disk} {web : Web}
    {report : Report} (h : job.Finishes machine disk web report after)
    (near : Source.isRemote job.input = false)
    : ∃ location written,
        job.Rewrites machine disk web report location written
        ∧ after = disk.put location (.file written) := by
  cases h with
  | @written name text bytes path content _ given clean reads named writes =>
      cases writes with
      | @file _ location _ plain writable known stored uncut =>
          refine ⟨location, content, ⟨named, writable, ?_⟩, rfl⟩
          intro other same input
          cases reads with
          | nothing remote | body remote => simp [near] at remote
          | file _ held known' decoded =>
              have again : Source.Reads machine other web job.input name text bytes :=
                .file near (input.trans held) known' decoded
              have rewritten
                  : other.Writes machine path name (Stylesheet.minify text) content
                      (other.put location (.file content)) :=
                .file plain (same.writable_ok_iff.mpr writable) known stored uncut
              exact .written given clean again named rewritten

namespace Rewrites

variable {job : Job} {machine : Machine} {disk : Disk} {web : Web} {report : Report}
  {location place : Location} {written bytes : Bytes}

/-- A run does the same once a file was put off its input. -/
theorem after_put (h : job.Rewrites machine disk web report location written)
    (free : disk.find? place ≠ some .directory)
    (off : disk.locate (Path.parse job.input) ≠ .ok place)
    : job.Finishes machine (disk.put place (.file bytes)) web report
        ((disk.put place (.file bytes)).put location (.file written)) :=
  h.moved _ (Disk.sameDirectories_put free bytes) (Disk.file?_put_of_ne free bytes off)

/-- A run would have done the same before a file was put off its input. -/
theorem before_put
    (h : job.Rewrites machine (disk.put place (.file bytes)) web report location written)
    (free : disk.find? place ≠ some .directory)
    (off : disk.locate (Path.parse job.input) ≠ .ok place)
    : job.Finishes machine disk web report (disk.put location (.file written)) :=
  h.moved _ (Disk.sameDirectories_put free bytes).symm
    (Disk.file?_put_of_ne free bytes off).symm

end Rewrites

-----------------------------------------------------------------------------------------
-- Two runs
-----------------------------------------------------------------------------------------

/-- Two runs can be done in the other order: they have the given reports then, and leave the same
entry at every location.
-/
structure Commute (one other : Job) (machine : Machine) (disk : Disk) (web : Web)
    (first second : Report)
    : Prop where
  early : (other.run machine disk web).result = .ok second
  late : (one.run machine (other.run machine disk web).disk web).result = .ok first
  alike
    : Disk.Alike (other.run machine (one.run machine disk web).disk web).disk
        (one.run machine (other.run machine disk web).disk web).disk

variable {one other : Job} {machine : Machine} {disk : Disk} {web : Web}
  {first second : Report}

/-- Independent runs that both have a report can be done in the other order, since each does the
same before and after the other's file is put.
-/
theorem Independent.commute (independent : one.Independent other disk)
    (done : (one.run machine disk web).result = .ok first)
    (done' : (other.run machine (one.run machine disk web).disk web).result = .ok second)
    : one.Commute other machine disk web first second := by
  obtain ⟨location, written, rewrites, left⟩ :=
    (run_ok_iff.mp ⟨done, rfl⟩).rewrites independent.near
  obtain ⟨leads, free⟩ := Disk.writable_ok rewrites.writable
  rw [left] at done'
  obtain ⟨location', written', rewrites', left'⟩ :=
    (run_ok_iff.mp ⟨done', rfl⟩).rewrites independent.near'
  -- The second output leads to the same place on the first disk.
  have same := Disk.sameDirectories_put free written
  obtain ⟨leads', free'⟩ := Disk.writable_ok (same.writable_ok_iff.mp rewrites'.writable)
  have off := independent.offInput _ rewrites.target _ leads
  have off' := independent.offInput' _ rewrites'.target _ leads'
  have ne : location ≠ location' := by
    intro meets
    exact independent.offOutput _ _ rewrites.target rewrites'.target _ leads (meets ▸ leads')
  obtain ⟨early, earlyDisk⟩ := run_ok_iff.mpr (rewrites'.before_put free off)
  obtain ⟨late, lateDisk⟩ := run_ok_iff.mpr (rewrites.after_put free' off')
  constructor
  · exact early
  · rwa [earlyDisk]
  · rw [left, left', earlyDisk, lateDisk]
    exact Disk.alike_put_put free free' ne written written'

/-- Runs over files whose inputs and outputs are at four different places can be done in either
order.
-/
theorem Places.commute {source target source' target' : Location}
    (places : one.Places disk source target) (places' : other.Places disk source' target')
    (apart : [source, target, source', target'].Nodup)
    (done : (one.run machine disk web).result = .ok first)
    (done' : (other.run machine (one.run machine disk web).disk web).result = .ok second)
    : one.Commute other machine disk web first second :=
  (places.independent places' apart).commute done done'

/-- Independent runs that both have a report in one order have the same reports in the other
order, and leave the same entry at every location.
-/
theorem run_ok_commutes (independent : one.Independent other disk)
    (done : (one.run machine disk web).result = .ok first)
    (done' : (other.run machine (one.run machine disk web).disk web).result = .ok second)
    : (other.run machine disk web).result = .ok second
      ∧ (one.run machine (other.run machine disk web).disk web).result = .ok first
      ∧ Disk.Alike (other.run machine (one.run machine disk web).disk web).disk
          (one.run machine (other.run machine disk web).disk web).disk := by
  obtain ⟨early, late, alike⟩ := independent.commute done done'
  exact ⟨early, late, alike⟩

/-- A run beside its input and a run out of a directory, under another encoding. -/
theorem run_ok_commutes_dotted
    : let one : Job := ⟨"a.css", none, some "utf-8", none⟩
      let other : Job := ⟨"d/c.css", some (Path.parse "d/..//b.css"), some "utf-16", none⟩
      let disk : Disk :=
        ⟨[], [(["d".toList], .directory),
          (["a.css".toList], .file [97, 32, 123, 125]),
          (["d".toList, "c.css".toList], .file [0xFE, 0xFF, 0, 58, 0, 32])]⟩
      let web : Web := ⟨[]⟩
      let first : Report := ⟨"a.css", Path.parse "a.min.css", 4, 3⟩
      let second : Report := ⟨"d/c.css", Path.parse "d/../b.css", 6, 4⟩
      one.Independent other disk
      ∧ (one.run .standard disk web).result = .ok first
      ∧ (other.run .standard (one.run .standard disk web).disk web).result = .ok second
      ∧ (other.run .standard disk web).result = .ok second
      ∧ (one.run .standard (other.run .standard disk web).disk web).result = .ok first
      ∧ Disk.Alike (other.run .standard (one.run .standard disk web).disk web).disk
          (one.run .standard (other.run .standard disk web).disk web).disk := by
  intro one other disk web first second
  have places : one.Places disk ["a.css".toList] ["a.min.css".toList] :=
    ⟨by decide +kernel, by decide +kernel, first.output, by decide +kernel, by decide +kernel⟩
  have places' : other.Places disk ["d".toList, "c.css".toList] ["b.css".toList] :=
    ⟨by decide +kernel, by decide +kernel, second.output, by decide +kernel, by decide +kernel⟩
  have independent : one.Independent other disk := places.independent places' (by decide)
  have done : (one.run .standard disk web).result = .ok first := by decide +kernel
  have done' : (other.run .standard (one.run .standard disk web).disk web).result = .ok second := by
    decide +kernel
  exact ⟨independent, done, done', run_ok_commutes independent done done'⟩

end CssMinifier.Job
