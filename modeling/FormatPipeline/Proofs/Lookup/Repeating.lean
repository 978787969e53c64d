import FormatPipeline.Proofs.Lookup.Memory

/-! Memories stay within their limits, and a search that is made again asks nothing. -/

namespace FormatPipeline

/-- What takes no questions leads on to what follows, and to nothing else. -/
theorem Probed.bind_of_pure {α β : Type} (value : α) (next : α → Probed β) :
    (pure value : Probed α) >>= next = next value := by
  -- No question is added to those of what follows.
  show Probed.mk _ (0 + _) = _
  rw [Nat.zero_add]
  rfl

namespace Memo

variable {κ α : Type}

/-- A memory within its limits holds at most 1024 results, each under a key of its own. -/
structure IsTidy (memo : Memo κ α) : Prop where
  size_le : memo.size ≤ 1024
  distinct : (memo.entries.map (·.1)).Nodup

/-- An empty memory is within its limits. -/
theorem isTidy_empty : (empty : Memo κ α).IsTidy := ⟨by simp [empty, size], .nil⟩

variable [DecidableEq κ] {memo : Memo κ α} {key : κ}

/-- No entry has a key under which nothing is found. -/
theorem notMem_keys_of_find?_eq_none (unknown : memo.find? key = none) :
    key ∉ memo.entries.map (·.1) := by
  intro present
  obtain ⟨entry, member, rfl⟩ := List.mem_map.mp present
  have missing := List.find?_eq_none.mp (Option.map_eq_none_iff.mp unknown) entry member
  simp at missing

/-- A memory stays within its limits when it remembers a result under a new key. -/
theorem IsTidy.remember (tidy : memo.IsTidy) (unknown : memo.find? key = none) (result : α) :
    (memo.remember key result).IsTidy := by
  refine ⟨size_remember_le memo key result, ?_⟩
  unfold Memo.remember
  -- A memory that starts over holds the new key alone.
  split
  · simp
  · exact List.nodup_cons.mpr ⟨notMem_keys_of_find?_eq_none unknown, tidy.distinct⟩

end Memo

namespace SearchMemo

variable {memo : SearchMemo} {file : Path}

/-- A file that is remembered is not searched for. -/
theorem findOr_of_known {found : Option Path} (known : memo.find? file.components = some found)
    (search : Probed (Option Path)) : memo.findOr file search = pure (found, memo) := by
  simp [findOr, known]

/-- What was found is remembered, even if it is nothing. -/
theorem find?_findOr (memo : SearchMemo) (file : Path) (search : Probed (Option Path)) :
    (memo.findOr file search).value.2.find? file.components =
      some (memo.findOr file search).value.1 := by
  unfold findOr
  split
  next known => exact known
  -- Also a memory that starts over keeps the result for which it does.
  next => exact Memo.find?_remember memo file.components _

/-- A search that is made again finds the same without a question, whatever it would find now. -/
theorem findOr_again (memo : SearchMemo) (file : Path) (search later : Probed (Option Path)) :
    (memo.findOr file search).value.2.findOr file later = pure (memo.findOr file search).value :=
  findOr_of_known (find?_findOr memo file search) later

/-- Searching keeps a memory within its limits. -/
theorem isTidy_findOr (tidy : memo.IsTidy) (file : Path) (search : Probed (Option Path)) :
    (memo.findOr file search).value.2.IsTidy := by
  unfold findOr
  split
  next => exact tidy
  next unknown => exact tidy.remember unknown _

end SearchMemo

namespace BinaryFinder

variable {finder : BinaryFinder}

/-- A binary that is looked for again is found without a question. -/
theorem resolve_again (finder : BinaryFinder) (files later : FileSystem) (file : Path) :
    (finder.resolve files file).value.2.resolve later file =
      pure (finder.resolve files file).value := by
  have again := SearchMemo.findOr_again finder.memo file
    (Lookup.firstAround files file finder.localBins) (Lookup.firstAround later file finder.localBins)
  -- Whatever the first search found is in the memory now, so the second asks no question.
  rw [finder_resolve]
  unfold resolve
  simp only [again, Probed.bind_of_pure, Probed.value_bind]
  split <;> rfl

/-- Setting names to search for keeps the memory within its limits. -/
theorem isTidy_setLocalBins (tidy : finder.memo.IsTidy) (names : List String) :
    (finder.setLocalBins names).1.memo.IsTidy := by
  -- The list in use keeps the memory, and every other one empties it.
  unfold setLocalBins
  split
  · exact tidy
  · split <;> exact Memo.isTidy_empty

/-- Setting the binary of the user does not touch the memory. -/
theorem memo_setGlobalBin (finder : BinaryFinder) (files : FileSystem) (value : String) :
    (finder.setGlobalBin files value).value.1.memo = finder.memo := by
  rw [value_setGlobalBin]

/-- Finding a binary keeps the memory within its limits. -/
theorem isTidy_resolve (tidy : finder.memo.IsTidy) (files : FileSystem) (file : Path) :
    (finder.resolve files file).value.2.memo.IsTidy := by
  rw [finder_resolve]
  exact SearchMemo.isTidy_findOr tidy file _

end BinaryFinder

namespace ConfigFinder

variable {finder : ConfigFinder}

/-- A configuration file that is looked for again is found without a question. -/
theorem resolve_again (finder : ConfigFinder) (files later : FileSystem) (file : Path) :
    (finder.resolve files file).value.2.resolve later file =
      pure (finder.resolve files file).value := by
  have again := SearchMemo.findOr_again finder.memo file (search files file finder.candidates)
    (search later file finder.candidates)
  unfold resolve
  simp only [Probed.value_bind, Probed.value_pure, again, Probed.bind_of_pure]

/-- Setting candidates keeps the memory within its limits. -/
theorem isTidy_setCandidates (tidy : finder.memo.IsTidy) (files : FileSystem)
    (candidates : List String) : (finder.setCandidates files candidates).value.1.memo.IsTidy := by
  by_cases same : candidates = finder.candidates
  · rw [same, value_setCandidates_self]
    exact tidy
  · rw [value_setCandidates candidates same]
    exact Memo.isTidy_empty

/-- Finding a configuration file keeps the memory within its limits. -/
theorem isTidy_resolve (tidy : finder.memo.IsTidy) (files : FileSystem) (file : Path) :
    (finder.resolve files file).value.2.memo.IsTidy :=
  SearchMemo.isTidy_findOr tidy file _

end ConfigFinder

end FormatPipeline
