import CssMinifier.Proofs.Job.Failing

/-! Encodability of what a run writes. A stylesheet that was read under a codec can be
written back under it, so no run fails on a character of its own output.
-/

namespace CssMinifier.Job

open CssMinifier.Encoding

/-- Every codec encodes what it reads from a body or a file once that is minified. No run fails
because a codec does not know a character; under the name of a codec no run fails because a text
cannot be encoded, and a failed run leaves the disk as it was unless the disk itself has cut the
write short.
-/
theorem minified_encodes (codec : Codec)
    : (∀ (machine : Machine) (disk : Disk) (web : Web) (source name : String)
          (text : List Char) (size : Nat),
        Name.meaning? name = some (.text codec)
        → Source.read machine disk web source (some name) = .ok (text, size)
        → ∃ written, codec.encode? (Stylesheet.minify text) = some written)
      ∧ ∀ (job : Job) (machine : Machine) (disk : Disk) (web : Web) (failure : Failure),
          (job.run machine disk web).result = .error failure
          → failure ≠ .unencodable
            ∧ ∀ name,
                job.encoding = some name
                → Name.meaning? name = some (.text codec)
                → (∀ message, failure ≠ .breakdown (.encoder message))
                  ∧ ((job.run machine disk web).disk = disk
                    ∨ ∃ message, failure = .breakdown (.disk message)) := by
  constructor
  · intro machine disk web source name text size named read
    obtain ⟨name', bytes, ⟨given, _⟩, reads, _⟩ := Source.read_ok_iff.mp read
    obtain rfl : name = name' := Option.some.inj given
    exact Option.isSome_iff_exists.mp (reads.encodes_minify named)
  · intro job machine disk web failure failed
    have remains := (fails_of_run failed).remains
    refine ⟨remains.ne_unencodable, fun name given named => ?_⟩
    rcases remains.cut_of_codec given named with ⟨other, same⟩ | ⟨message, rfl⟩
    · refine ⟨fun message gaveUp => ?_, Or.inl same⟩
      rw [gaveUp] at other
      cases other
    · exact ⟨fun _ => by simp, Or.inr ⟨message, rfl⟩⟩

end CssMinifier.Job
