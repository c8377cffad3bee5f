import EnumExport.Proofs.Generation.LineEnds
import EnumExport.Proofs.Printing.RoundTrip

namespace EnumExport

/-- What a case without a value of its own gets: the start in front of all others, else one more
than the case before it. -/
def valueAt (start : Int) (values : List Int) : Nat → Int
  | 0 => start
  | position + 1 => values.getD position 0 + 1

structure Numbers (owns : List (Option Int)) (values : List Int) : Prop where
  length_eq : values.length = owns.length
  value_eq : ∀ (position : Nat) (own : Option Int), owns[position]? = some own →
    values[position]? = some (own.getD (valueAt 0 values position))

theorem getElem?_resolve (start : Int) (cases : List EnumCase) (position : Nat)
    (own : Option Int) (h : (cases.map EnumCase.explicit?)[position]? = some own) :
    ((resolve start cases).map ResolvedCase.value)[position]? =
      some (own.getD (valueAt start ((resolve start cases).map ResolvedCase.value) position)) := by
  induction cases generalizing start position with
  | nil => simp at h
  | cons c cases ih =>
    rw [resolve, List.map_cons]
    cases position with
    | zero =>
      obtain rfl : c.explicit? = own := by simpa using h
      rfl
    | succ position =>
      have hrest := ih (c.explicit?.getD start + 1) position (by simpa using h)
      rw [List.getElem?_cons_succ, hrest]
      cases position with
      | zero => rfl
      | succ position => rfl

theorem numbers_resolve (cases : List EnumCase) :
    Numbers (cases.map EnumCase.explicit?) ((resolve 0 cases).map ResolvedCase.value) := by
  refine ⟨?_, getElem?_resolve 0 cases⟩
  have hnames := congrArg List.length (map_name_resolve 0 cases)
  rwa [List.length_map, List.length_map, ← List.length_map (f := ResolvedCase.value),
    ← List.length_map (f := EnumCase.explicit?)] at hnames

theorem Numbers.unique {owns : List (Option Int)} {values others : List Int}
    (h : Numbers owns values) (hothers : Numbers owns others) : values = others := by
  have hlength := h.length_eq
  have hothersLength := hothers.length_eq
  have hat : ∀ position : Nat, values[position]? = others[position]? := by
    intro position
    -- A value that is not a case's own depends on the position before it only.
    induction position with
    | zero =>
      cases hown : owns[0]? with
      | none =>
        rw [List.getElem?_eq_none_iff] at hown
        rw [List.getElem?_eq_none (by omega), List.getElem?_eq_none (by omega)]
      | some own => rw [h.value_eq 0 own hown, hothers.value_eq 0 own hown, valueAt, valueAt]
    | succ position ih =>
      cases hown : owns[position + 1]? with
      | none =>
        rw [List.getElem?_eq_none_iff] at hown
        rw [List.getElem?_eq_none (by omega), List.getElem?_eq_none (by omega)]
      | some own =>
        rw [h.value_eq _ own hown, hothers.value_eq _ own hown, valueAt, valueAt,
          List.getD_eq_getElem?_getD, List.getD_eq_getElem?_getD, ih]
  exact List.ext_getElem? hat

namespace PrintedCase

def ownValue? (printed : PrintedCase) : Option Int :=
  printed.assignment.map fun assignment => assignment.signed.value

theorem explicit?_meaning (printed : PrintedCase) :
    printed.meaning.explicit? = printed.ownValue? := by
  rw [EnumCase.explicit?, meaning, ownValue?]
  cases printed.assignment with
  | none => rfl
  | some assignment => exact assignment.signed.eval?_expression

def entry (printed : PrintedCase) (value : Int) : List Char :=
  constantName printed.name.text ++ " = ".toList ++ Numeral.decimal value

theorem map_entry_resolve (start : Int) (cases : List PrintedCase) :
    (resolve start (cases.map meaning)).map ResolvedCase.entry =
      List.zipWith entry cases
        ((resolve start (cases.map meaning)).map ResolvedCase.value) := by
  induction cases generalizing start with
  | nil => rfl
  | cons printed cases ih =>
    rw [List.map_cons, resolve, List.map_cons, List.map_cons, ih]
    rfl

end PrintedCase

namespace PrintedEnum

variable (printed : PrintedEnum)

def script (place : ScriptPlace) (values : List Int) : ScriptFile where
  path := place.pathOf printed.name.text
  contents := "class_name ".toList ++ printed.name.text ++ "\n\nenum \x7b\n\t".toList ++
    ",\n\t".toList.intercalate (List.zipWith PrintedCase.entry printed.body.cases values) ++
    "\n\x7d".toList

def values : List Int := (resolve 0 printed.cases).map ResolvedCase.value

theorem numbers_values :
    Numbers (printed.body.cases.map PrintedCase.ownValue?) printed.values := by
  have hnumbers := numbers_resolve printed.cases
  have howns : printed.cases.map EnumCase.explicit? =
      printed.body.cases.map PrintedCase.ownValue? := by
    rw [cases, List.map_map]
    exact List.map_congr_left fun c _ => c.explicit?_meaning
  rwa [howns] at hnumbers

theorem script_values (place : ScriptPlace) :
    printed.script place printed.values =
      place.script printed.name.text (resolve 0 printed.cases) := by
  rw [script, ScriptPlace.script, values, cases, PrintedCase.map_entry_resolve]

def declaration (file : Option (List Char)) : Declaration :=
  ⟨.enum, printed.name.text, printed.cases, file, some 1⟩

theorem generateSource_text {settings : Settings} (file : Option (List Char))
    (hmarker : settings.marker = printed.marker.text) :
    Step.generateSource settings file printed.text =
      (Step.expandAll settings [printed.declaration file] >>= fun _ => return 1) := by
  rw [Step.generateSource, hmarker, readSource_printed]
  rfl

theorem isPrintable_declaration (file : Option (List Char)) :
    (printed.declaration file).IsPrintable ↔
      ∀ value ∈ printed.values, value.natAbs < Numeral.printLimit := by
  rw [Declaration.IsPrintable, values, List.forall_mem_map]
  constructor
  · intro h c hc
    exact h ⟨printed.name.text, printed.cases⟩ rfl c hc
  · intro h enum henum c hc
    obtain rfl := Option.some.inj henum
    exact h c hc

theorem generates_of_isPrintable {settings : Settings} (session : Session)
    (file : Option (List Char)) (hmarker : settings.marker = printed.marker.text)
    (hnull : Disk.hasNull (settings.place.pathOf printed.name.text) = false)
    (hprintable : ∀ value ∈ printed.values, value.natAbs < Numeral.printLimit) :
    (Step.generateSource settings file printed.text).outcome session = .ok 1 ∧
      Step.Generates settings printed.name.text (printed.script settings.place printed.values)
        session ((Step.generateSource settings file printed.text).after session) := by
  have hdeclaration := (printed.isPrintable_declaration file).mpr hprintable
  obtain ⟨houtcome, hthrough⟩ := Step.expandAll_spec session
    (List.forall_mem_singleton.mpr hnull) (List.forall_mem_singleton.mpr hdeclaration)
  rw [printed.generateSource_text file hmarker, Step.outcome_bind houtcome,
    Step.after_bind houtcome]
  refine ⟨rfl, ?_⟩
  cases hthrough with
  | cons hexpands hrest =>
    cases hrest
    cases hexpands with
    | script henum hgenerates =>
      obtain rfl := Option.some.inj henum
      rw [script_values]
      exact hgenerates
    | misplaced hnone hrecords => exact absurd hnone (by simp [declaration, Declaration.asEnum?])

theorem expandAll_of_not_isPrintable (settings : Settings) (session : Session)
    (file : Option (List Char))
    (hlong : ∃ value ∈ printed.values, Numeral.printLimit ≤ value.natAbs) :
    (Step.expandAll settings [printed.declaration file]).outcome session =
        .error (.numeral .unprintable) ∧
      (Step.expandAll settings [printed.declaration file]).after session = session := by
  have hdeclaration : ¬ (printed.declaration file).IsPrintable := by
    rw [isPrintable_declaration]
    push Not
    exact hlong
  obtain ⟨houtcome, hafter⟩ := @Step.expand_error settings session _ hdeclaration
  exact ⟨Step.outcome_bind_error houtcome _, (Step.after_bind_error houtcome _).trans hafter⟩

theorem unprintable_of_not_isPrintable {settings : Settings} (session : Session)
    (file : Option (List Char)) (hmarker : settings.marker = printed.marker.text)
    (hlong : ∃ value ∈ printed.values, Numeral.printLimit ≤ value.natAbs) :
    (Step.generateSource settings file printed.text).outcome session =
        .error (.numeral .unprintable) ∧
      (Step.generateSource settings file printed.text).after session = session := by
  obtain ⟨hall, hsame⟩ := printed.expandAll_of_not_isPrintable settings session file hlong
  rw [printed.generateSource_text file hmarker, Step.outcome_bind_error hall,
    Step.after_bind_error hall]
  exact ⟨rfl, hsame⟩

/-- A printed enum reads as what it was printed from, and its script carries the values that its
cases have by their raw values and positions. -/
theorem read_and_generated (printed : PrintedEnum) (file : Option (List Char)) :
    readSource printed.marker.text file printed.text =
        .ok [⟨.enum, printed.name.text, printed.cases, file, some 1⟩] ∧
      ∃ values : List Int, Numbers (printed.body.cases.map PrintedCase.ownValue?) values ∧
        ∀ (settings : Settings) (session : Session), settings.marker = printed.marker.text →
          Disk.hasNull (settings.place.pathOf printed.name.text) = false →
          ((∀ value ∈ values, value.natAbs < Numeral.printLimit) →
            (Step.generateSource settings file printed.text).outcome session = .ok 1 ∧
              Step.Generates settings printed.name.text (printed.script settings.place values)
                session ((Step.generateSource settings file printed.text).after session)) ∧
          ((∃ value ∈ values, Numeral.printLimit ≤ value.natAbs) →
            (Step.generateSource settings file printed.text).outcome session =
                .error (.numeral .unprintable) ∧
              (Step.generateSource settings file printed.text).after session = session) := by
  refine ⟨readSource_printed printed file, printed.values, printed.numbers_values, ?_⟩
  intro settings session hmarker hnull
  exact ⟨printed.generates_of_isPrintable session file hmarker hnull,
    printed.unprintable_of_not_isPrintable session file hmarker⟩

end PrintedEnum

def sampleEnum : PrintedEnum where
  marker := ⟨'A', [], by decide, by decide⟩
  name := ⟨'N', [], by decide, by decide⟩
  body :=
    .more ⟨" ".toList, by decide⟩
      ⟨1,
        ⟨⟨'a', "1".toList, by decide, by decide⟩, true,
          some ⟨"[I],I".toList,
            @WellNested.square ['I'] [',', 'I'] (.plain rfl rfl .nil)
              (.plain rfl rfl (.plain rfl rfl .nil)), by decide⟩, none⟩,
        [(⟨⟨"\n".toList, by decide⟩, ⟨"\t".toList, by decide⟩⟩,
          ⟨⟨'b', [], by decide, by decide⟩, false, none,
            some ⟨⟨⟨" \n".toList, by decide⟩, ⟨"\n".toList, by decide⟩⟩,
              ⟨true, ⟨.hexadecimal, '1', "_F".toList, by decide, by decide⟩⟩,
              fun h => absurd h.1 (by decide)⟩⟩)]⟩
      ⟨[], by decide⟩ ⟨';', by decide⟩
      (.last ⟨"\n".toList, by decide⟩
        ⟨0, ⟨⟨'c', [], by decide, by decide⟩, false, none, none⟩, []⟩ ⟨" ".toList, by decide⟩)

theorem read_and_generated_sample :
    let settings : Settings := { marker := "A".toList }
    sampleEnum.text =
        "@A\nenum N: Int \x7b case  \x60a1\x60([I],I)\n,\tb \n=\n-0x1_F;\ncase c \x7d".toList ∧
      readSource "A".toList none sampleEnum.text =
        .ok [⟨.enum, "N".toList, [⟨"a1".toList, none⟩,
          ⟨"b".toList, some (.negation (.integer 31))⟩, ⟨"c".toList, none⟩], none, some 1⟩] ∧
      ∀ session : Session,
        (Step.generateSource settings none sampleEnum.text).outcome session = .ok 1 ∧
          Step.Generates settings "N".toList
            ⟨Path.ofText "Enums/N.gd".toList,
              "class_name N\n\nenum \x7b\n\tA1 = 0,\n\tB = -31,\n\tC = -30\n\x7d".toList⟩
            session ((Step.generateSource settings none sampleEnum.text).after session) := by
  obtain ⟨hread, values, hnumbers, hgenerated⟩ := sampleEnum.read_and_generated none
  have hsample : Numbers [none, some (-31), none] [0, -31, -30] := by
    refine ⟨rfl, ?_⟩
    intro position own hown
    rcases position with _ | _ | _ | position
    · obtain rfl := Option.some.inj hown
      rfl
    · obtain rfl := Option.some.inj hown
      rfl
    · obtain rfl := Option.some.inj hown
      rfl
    · simp at hown
  have howns : sampleEnum.body.cases.map PrintedCase.ownValue? = [none, some (-31), none] := by
    decide
  rw [howns] at hnumbers
  obtain rfl := hnumbers.unique hsample
  refine ⟨by decide, hread, ?_⟩
  intro session
  have hprintable : ∀ value ∈ [(0 : Int), -31, -30], value.natAbs < Numeral.printLimit := by
    decide +kernel
  exact (hgenerated { marker := "A".toList } session rfl (by decide)).1 hprintable

namespace PrintedEnum

variable {printed : PrintedEnum} {settings : Settings} {path : Path} {session : Session}

theorem readDeclarations_text (hmarker : settings.marker = printed.marker.text)
    (htext : session.disk.HoldsText path printed.text) :
    session.disk.readDeclarations settings.marker path =
      .ok [printed.declaration (some path.text)] := by
  rw [Disk.readDeclarations_of_holdsText htext, hmarker, readSource_printed]
  rfl

theorem generateFiles_text (hmarker : settings.marker = printed.marker.text)
    (htext : session.disk.HoldsText path printed.text)
    (hlong : ∃ value ∈ printed.values, Numeral.printLimit ≤ value.natAbs) (paths : List Path) :
    (Step.generateFiles settings (path :: paths)).outcome session =
        .error (.numeral .unprintable) ∧
      (Step.generateFiles settings (path :: paths)).after session = session := by
  obtain ⟨houtcome, hafter⟩ :=
    printed.expandAll_of_not_isPrintable settings session (some path.text) hlong
  have hrun := Step.generateFile_run settings path session
  rw [readDeclarations_text hmarker htext] at hrun
  have hall : (Step.generateFile settings path).outcome session =
      .error (.numeral .unprintable) := by
    rw [Step.outcome, hrun]
    exact Step.outcome_bind_error houtcome _
  have hsame : (Step.generateFile settings path).after session = session := by
    rw [Step.after, hrun]
    exact (Step.after_bind_error houtcome _).trans hafter
  rw [Step.generateFiles, Step.outcome_bind_error hall, Step.after_bind_error hall]
  exact ⟨rfl, hsame⟩

end PrintedEnum

def roundLiteral (zeros : Nat) : IntegerLiteral where
  radix := .hexadecimal
  first := '1'
  more := List.replicate zeros '0'
  isDigit_first := by decide
  isDigit_more := by
    intro c hc
    rw [List.eq_of_mem_replicate hc]
    decide

theorem value_roundLiteral (zeros : Nat) : (roundLiteral zeros).value = 16 ^ zeros := by
  have hdigits : (roundLiteral zeros).digits = '1' :: List.replicate zeros '0' := by
    rw [IntegerLiteral.digits, roundLiteral, List.filter_replicate_of_pos (by decide)]
  have hplaces : (roundLiteral zeros).value = Nat.ofDigits 16 (List.replicate zeros 0 ++ [1]) := by
    rw [IntegerLiteral.value, hdigits, List.reverse_cons, List.reverse_replicate, List.map_append,
      List.map_replicate]
    rfl
  rw [hplaces, Nat.ofDigits_append, Nat.ofDigits_replicate_zero, List.length_replicate,
    Nat.ofDigits_singleton]
  omega

def roundEnum (zeros : Nat) : PrintedEnum where
  marker := ⟨'G', "odotEnum".toList, by decide, by decide⟩
  name := ⟨'A', [], by decide, by decide⟩
  body := .last ⟨" ".toList, by decide⟩
    ⟨0, ⟨⟨'a', [], by decide, by decide⟩, false, none,
      some ⟨⟨⟨" ".toList, by decide⟩, ⟨" ".toList, by decide⟩⟩, ⟨false, roundLiteral zeros⟩,
        fun h => absurd h.1 (by simp [roundLiteral])⟩⟩, []⟩
    ⟨" ".toList, by decide⟩

theorem values_roundEnum (zeros : Nat) : (roundEnum zeros).values = [(16 : Int) ^ zeros] := by
  have hvalues : (roundEnum zeros).values = [((roundLiteral zeros).value : Int)] := rfl
  rw [hvalues, value_roundLiteral]
  push_cast
  rfl

theorem not_mem_text_roundEnum (zeros : Nat) : '\r' ∉ (roundEnum zeros).text := by
  simp [roundEnum, roundLiteral, PrintedEnum.text, PrintedEnum.afterMarker_eq,
    PrintedEnum.afterName_eq, Identifier.text, PrintedBody.text, PrintedStatement.text,
    PrintedStatement.afterKeyword, PrintedStatement.moreText, PrintedCase.text,
    PrintedCase.writtenName, PrintedCase.afterName, Assignment.text, Joint.text, SignedLiteral.text,
    IntegerLiteral.text, Radix.marker, caseWord]

def roundDisk (zeros : Nat) : Disk where
  entries :=
    [(["a.swift".toList], .file (Utf8.encode (roundEnum zeros).text)),
      (["b.swift".toList], .file (Utf8.encode "@GodotEnum enum B: Int \x7b case b \x7d".toList))]

theorem Numeral.printLimit_le_pow {base n : Nat} (hbase : 10 ≤ base) (h : digitLimit ≤ n) :
    printLimit ≤ base ^ n := by
  have hpositive : 0 < base := by omega
  have hpow : ∀ digits : Nat, Nat.pow 10 digits ≤ base ^ digits := Nat.pow_le_pow_left hbase
  unfold printLimit
  exact (hpow digitLimit).trans (Nat.pow_le_pow_right hpositive h)

theorem generatePaths_roundDisk {zeros : Nat} (h : digitLimit ≤ zeros) :
    let session : Session := { disk := roundDisk zeros }
    let paths := [Path.ofText "a.swift".toList, Path.ofText "b.swift".toList]
    (Step.generatePaths { } paths).outcome session = .error (.numeral .unprintable) ∧
      (Step.generatePaths { } paths).after session = session := by
  intro session paths
  have hread : session.disk.read (Path.ofText "a.swift".toList) =
      .ok (Utf8.encode (LineEnd.lineFeed.written (roundEnum zeros).text)) := by
    rw [LineEnd.written_lineFeed]
    rfl
  have htext : session.disk.HoldsText (Path.ofText "a.swift".toList) (roundEnum zeros).text :=
    Disk.holdsText_of_written .lineFeed (not_mem_text_roundEnum zeros) hread
  have hlong : ∃ value ∈ (roundEnum zeros).values, Numeral.printLimit ≤ value.natAbs := by
    refine ⟨16 ^ zeros, ?_, ?_⟩
    · rw [values_roundEnum]
      exact List.mem_singleton.mpr rfl
    · rw [Int.natAbs_pow]
      exact Numeral.printLimit_le_pow (by decide) h
  have hfiles : session.disk.sourceFiles paths = .ok paths := rfl
  obtain ⟨houtcome, hafter⟩ := @Step.generatePaths_eq_generateFiles { } _ _ _ hfiles
  rw [houtcome, hafter]
  exact PrintedEnum.generateFiles_text rfl htext hlong _

theorem generatePaths_stopped :
    let session : Session := { disk := roundDisk digitLimit }
    let a := Path.ofText "a.swift".toList
    let b := Path.ofText "b.swift".toList
    session.disk.IsNullFree ∧ Disk.hasNull a = false ∧ Disk.hasNull b = false ∧
      (Step.generatePaths { } [b]).outcome session = .ok 1 ∧
      ¬ (∃ count, (Step.generatePaths { } [a, b]).outcome session = .ok count) ∧
      (Step.generatePaths { } [a, b]).after session = session := by
  obtain ⟨houtcome, hafter⟩ := @generatePaths_roundDisk digitLimit (Nat.le_refl _)
  refine ⟨by simp [roundDisk, Disk.IsNullFree], by decide, by decide, by decide +kernel, ?_, hafter⟩
  rintro ⟨count, hcount⟩
  rw [hcount] at houtcome
  simp at houtcome

end EnumExport
