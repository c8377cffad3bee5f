import EnumExport.Proofs.Generation.Completion
import EnumExport.Proofs.Text.Encoding

namespace EnumExport

inductive LineEnd where
  | lineFeed
  | returnAndFeed
  | carriageReturn
deriving DecidableEq, Repr

namespace LineEnd

def mark : LineEnd → List Char
  | lineFeed => ['\n']
  | returnAndFeed => ['\r', '\n']
  | carriageReturn => ['\r']

def written (lineEnd : LineEnd) (text : List Char) : List Char :=
  text.flatMap fun c => if c = '\n' then lineEnd.mark else [c]

theorem written_cons (lineEnd : LineEnd) (c : Char) (text : List Char) :
    lineEnd.written (c :: text) =
      (if c = '\n' then lineEnd.mark else [c]) ++ lineEnd.written text := rfl

theorem written_lineFeed (text : List Char) : lineFeed.written text = text := by
  have hsame : (fun c : Char => if c = '\n' then lineFeed.mark else [c]) = fun c => [c] := by
    funext c
    split
    · rename_i hc
      rw [hc]
      rfl
    · rfl
  rw [written, hsame, List.flatMap_singleton']

theorem not_mem_written_carriageReturn (text : List Char) : '\n' ∉ carriageReturn.written text := by
  rw [written, List.mem_flatMap]
  rintro ⟨c, -, hc⟩
  split at hc
  · simp [mark] at hc
  · rename_i hne
    exact hne (List.mem_singleton.mp hc).symm

end LineEnd

theorem unifyLineEnds_cons {c : Char} (h : c ≠ '\r') (text : List Char) :
    unifyLineEnds (c :: text) = c :: unifyLineEnds text := by
  rw [unifyLineEnds]
  · rintro text rfl
    exact absurd rfl h
  · rintro rfl
    exact absurd rfl h

theorem unifyLineEnds_return {text : List Char} (h : '\n' ∉ text) :
    unifyLineEnds ('\r' :: text) = '\n' :: unifyLineEnds text := by
  rw [unifyLineEnds]
  rintro rest rfl
  exact h (List.mem_cons_self ..)

theorem unifyLineEnds_mark (lineEnd : LineEnd) (text : List Char) :
    unifyLineEnds (lineEnd.mark ++ lineEnd.written text) =
      '\n' :: unifyLineEnds (lineEnd.written text) := by
  cases lineEnd with
  | lineFeed => exact unifyLineEnds_cons (by decide) _
  | returnAndFeed => exact unifyLineEnds.eq_1 _
  | carriageReturn => exact unifyLineEnds_return (LineEnd.not_mem_written_carriageReturn text)

theorem unifyLineEnds_written {text : List Char} (h : '\r' ∉ text) (lineEnd : LineEnd) :
    unifyLineEnds (lineEnd.written text) = text := by
  induction text with
  | nil => rfl
  | cons c text ih =>
    have hc := List.ne_of_not_mem_cons h
    have hrest := ih (List.not_mem_of_not_mem_cons h)
    rw [LineEnd.written_cons]
    split
    · rename_i hend
      rw [unifyLineEnds_mark, hrest, hend]
    · rw [List.singleton_append, unifyLineEnds_cons hc.symm, hrest]

variable {disk : Disk} {path : Path} {text : List Char}

theorem Disk.holdsText_of_written (lineEnd : LineEnd) (htext : '\r' ∉ text)
    (hread : disk.read path = .ok (Utf8.encode (lineEnd.written text))) :
    disk.HoldsText path text :=
  ⟨_, _, hread, Utf8.decode_encode _, (unifyLineEnds_written htext lineEnd).symm⟩

/-- Reading a file that holds a text in the standard encoding, with line ends of one kind, gives
what the text says: the same declarations on the same lines, or the same error. -/
theorem readDeclarations_written (lineEnd : LineEnd) (htext : '\r' ∉ text)
    (hread : disk.read path = .ok (lineEnd.written text).utf8Encode.data.toList)
    (marker : List Char) :
    disk.readDeclarations marker path =
      (readSource marker (some path.text) text).mapError FileReadError.ofReadError := by
  rw [← Utf8.encode_eq] at hread
  exact Disk.readDeclarations_of_holdsText (disk.holdsText_of_written lineEnd htext hread) marker

theorem readDeclarations_written_sample :
    let text := "// é€😀\n\n@A enum N \x7b\n case b \x7d".toList
    let bytes := (LineEnd.carriageReturn.written text).utf8Encode.data.toList
    let path := Path.ofText "n.swift".toList
    let disk : Disk := { entries := [(["n.swift".toList], .file bytes)] }
    '\r' ∉ text ∧ disk.read path = .ok bytes ∧
      disk.readDeclarations "A".toList path =
        .ok [⟨.enum, "N".toList, [⟨"b".toList, none⟩], some "n.swift".toList, some 3⟩] := by
  intro text bytes path disk
  have htext : '\r' ∉ text := by decide
  have hread : disk.read path = .ok bytes := by decide +kernel
  have hsource : readSource "A".toList (some path.text) text =
      .ok [⟨.enum, "N".toList, [⟨"b".toList, none⟩], some "n.swift".toList, some 3⟩] := by
    decide +kernel
  refine ⟨htext, hread, ?_⟩
  rw [readDeclarations_written .carriageReturn htext hread, hsource]
  rfl

end EnumExport
