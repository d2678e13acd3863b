import Inspection.Proofs.Disk

/-!
# Places of files

What a write leaves alone. A file is written in a place where no directory is, so every path leads
where it led (`place?_withText`), and a path to another place shows what it showed
(`shows_withText`). The directories that lead to a file that is there need not be made
(`made_of_locate`), and where some are made all files stay where they are (`shows_made`).
-/

namespace Inspection.Disk

variable {d d' made : Disk} {p : Path}

/-- The place that a path leads to, whether or not something is there. -/
def place? (d : Disk) (p : Path) : Option String :=
  match d.locate p with
  | .ok names => some (placeOf names)
  | .error _ => none

/-- The disk with a file in a place. -/
def withText (d : Disk) (place : List String) (text : String) : Disk :=
  { d with entries := d.entries.insert (placeOf place) (.file text) }

/-- A path shows on one disk what it shows on another: whether something is there, and its text. -/
structure Shows (d d' : Disk) (p : Path) : Prop where
  pathExists : d'.pathExists p = d.pathExists p
  read : d.pathExists p = .ok true → d'.read p = d.read p

/-- What is shown on a third disk as on the second is shown as on the first. -/
lemma Shows.trans {d'' : Disk} (h : d.Shows d' p) (h' : d'.Shows d'' p) : d.Shows d'' p where
  pathExists := h'.pathExists.trans h.pathExists
  read there := (h'.read (h.pathExists.trans there)).trans (h.read there)

/-- From the root a short path without null characters leads along its names. -/
lemma names_of_plain (root : d.workingDirectory = ⟨true, []⟩)
    (plain : Char.ofNat 0 ∉ p.text.toList) (short : p.text.utf8ByteSize ≤ maxPathSize) :
    d.names p = .ok p.names := by
  have own : (d.workingDirectory.join p).names = p.names := by
    rw [root, Path.join]
    split
    · rfl
    · rfl
  rw [names, String.contains_char_eq, decide_eq_false plain,
    if_neg Bool.false_ne_true, if_neg (Nat.not_lt.2 short), own]

/-- A path leads to a place just if the names to it are found. -/
lemma place?_eq_some {place : String} :
    d.place? p = some place ↔ ∃ names, d.locate p = .ok names ∧ placeOf names = place := by
  rw [place?]
  cases d.locate p with
  | error e => simp
  | ok names => simp

/-- A path under which something is found leads somewhere. -/
lemma locate_of_pathExists (there : d.pathExists p = .ok true) :
    ∃ names, d.locate p = .ok names ∧ (d.at? names).isSome := by
  rw [pathExists, entry?] at there
  cases located : d.locate p with
  | error e =>
    rw [located] at there
    cases e <;> cases there
  | ok names =>
    rw [located] at there
    exact ⟨names, rfl, Except.ok.inj there⟩

/-- Where a path leads to names, what is there tells whether it exists. -/
lemma pathExists_of_locate {names : List String} (located : d.locate p = .ok names) :
    d.pathExists p = .ok (d.at? names).isSome := by
  rw [pathExists, entry?, located]

/-- Where a path leads nowhere, nothing is there, unless it cannot even be looked for. -/
lemma pathExists_of_error {e : Fault} (failed : d.locate p = .error e)
    (usable : e ≠ .unusablePath) : d.pathExists p = .ok false := by
  rw [pathExists, entry?, failed]
  cases e
  case unusablePath => exact absurd rfl usable
  all_goals rfl

/-- What is read of a path that leads to a file. -/
lemma read_of_locate {names : List String} {text : String} (located : d.locate p = .ok names)
    (there : d.at? names = some (.file text)) :
    d.read p = .ok (String.ofList (unifyBreaks text.toList)) := by
  rw [read, located, ok_bind, there]
  rfl

/-- What is read of a path is the text in its place. -/
lemma find?_of_read {t : String} (h : d.read p = .ok t) :
    ∃ place text, d.place? p = some place ∧ d.entries.find? place = some (.file text) ∧
      t = String.ofList (unifyBreaks text.toList) := by
  obtain ⟨names, located, there⟩ := bind_eq_ok.1 h
  cases names with
  | nil => cases there
  | cons n rest =>
    refine ⟨placeOf (n :: rest), ?_⟩
    split at there
    case h_1 text found =>
      exact ⟨text, place?_eq_some.2 ⟨_, located, rfl⟩, found, (pure_eq_ok.1 there).symm⟩
    case h_2 => cases there
    case h_3 => cases there

/-- Paths to one place read the same. -/
lemma read_unique {q : Path} {t t' : String} (h : d.read p = .ok t) (h' : d.read q = .ok t')
    (same : d.place? p = d.place? q) : t = t' := by
  obtain ⟨place, text, reached, found, rfl⟩ := find?_of_read h
  obtain ⟨place', text', reached', found', rfl⟩ := find?_of_read h'
  obtain rfl := Option.some.inj (reached.symm.trans (same.trans reached'))
  cases found.symm.trans found'
  rfl

/-- A path shows the same where it leads to the same names, and the same is there. -/
lemma shows_of_locate {names : List String} (located : d.locate p = .ok names)
    (located' : d'.locate p = .ok names) (same : d'.at? names = d.at? names) : d.Shows d' p where
  pathExists := by rw [pathExists_of_locate located', pathExists_of_locate located, same]
  read _ := by rw [read, read, located, located', ok_bind, ok_bind, same]

/-- Names lead on from a directory just if their first one is that of a directory in it. -/
lemma follow_cons_eq_ok {here rest names : List String} {n : String} (forward : n ≠ "..")
    (more : rest ≠ []) : d.follow here (n :: rest) = .ok names ↔
      n.utf8ByteSize ≤ maxNameSize ∧ d.at? (here ++ [n]) = some .directory ∧
        d.follow (here ++ [n]) rest = .ok names := by
  rw [follow]
  · by_cases long : maxNameSize < n.utf8ByteSize
    · simp [long, Nat.not_le_of_lt long]
    · rw [if_neg long, if_neg (by simpa using more)]
      cases d.at? (here ++ [n]) with
      | none => simp
      | some e =>
        cases e with
        | directory => simp [Nat.le_of_not_lt long]
        | file text => simp
  · exact forward

/-- Names do not lead through what is no directory; that does not make them unusable. -/
lemma follow_closed {here rest : List String} {n : String} (other : n = ".." → False)
    (short : ¬maxNameSize < n.utf8ByteSize) (more : ¬rest.isEmpty = true)
    (closed : d.at? (here ++ [n]) ≠ some .directory) :
    ∃ e, d.follow here (n :: rest) = .error e ∧ e ≠ .unusablePath := by
  rw [follow, if_neg short, if_neg more]
  · cases found : d.at? (here ++ [n]) with
    | none => exact ⟨_, rfl, by simp⟩
    | some e =>
      cases e with
      | directory => exact absurd found closed
      | file text => exact ⟨_, rfl, by simp⟩
  · exact other

/-- Names lead where the directories are the same to the same place, or to none on either disk;
whether a name is unusable does not depend on the disk. -/
lemma follow_same (keeps : d.Keeps d') (keeps' : d'.Keeps d) (here further : List String) :
    d'.follow here further = d.follow here further ∨
      ∃ e e', d.follow here further = .error e ∧ d'.follow here further = .error e' ∧
        e ≠ .unusablePath ∧ e' ≠ .unusablePath := by
  have closed : ∀ {names}, d.at? names ≠ some .directory → d'.at? names ≠ some .directory :=
    fun free there => free (keeps' _ there)
  -- the two disks part only where names lead through what is no directory, which fails on both
  induction here, further using follow.induct d with
  | case1 here =>
    left
    rw [follow, follow]
  | case2 here rest ih =>
    rw [follow, follow]
    exact ih
  | case3 here n rest other long =>
    left
    rw [follow, if_pos long, follow, if_pos long]
    all_goals exact other
  | case4 here n rest other short last =>
    left
    rw [follow, if_neg short, if_pos last, follow, if_neg short, if_pos last]
    all_goals exact other
  | case5 here n rest other short more there ih =>
    rw [follow, if_neg short, if_neg more, keeps _ there, follow, if_neg short, if_neg more, there]
    · exact ih
    all_goals exact other
  | case6 here n rest other short more text there =>
    have free : d.at? (here ++ [n]) ≠ some .directory := by simp [there]
    obtain ⟨e, failed, he⟩ := follow_closed other short more free
    obtain ⟨e', failed', he'⟩ := follow_closed other short more (closed free)
    exact .inr ⟨e, e', failed, failed', he, he'⟩
  | case7 here n rest other short more there =>
    have free : d.at? (here ++ [n]) ≠ some .directory := by simp [there]
    obtain ⟨e, failed, he⟩ := follow_closed other short more free
    obtain ⟨e', failed', he'⟩ := follow_closed other short more (closed free)
    exact .inr ⟨e, e', failed, failed', he, he'⟩

/-- Where all directories are left, paths lead to the same names. -/
lemma follow_locate (keeps : d.Keeps d') (base : d'.workingDirectory = d.workingDirectory)
    {names : List String} (h : d.locate p = .ok names) : d'.locate p = .ok names := by
  obtain ⟨steps, hs, e⟩ := bind_eq_ok.1 h
  refine bind_eq_ok.2 ⟨steps, ?_, follow_keeps keeps e⟩
  rw [← hs, Disk.names, Disk.names, base]

section

variable {place : List String} {text : String}

/-- A file is written where no directory is, so all directories are left, and no new ones made. -/
lemma keeps_withText (free : d.at? place ≠ some .directory) :
    d.Keeps (d.withText place text) ∧ (d.withText place text).Keeps d := by
  refine ⟨keeps_file free, fun names there => ?_⟩
  cases names with
  | nil => rfl
  | cons n rest =>
    rw [withText, at?_insert (by simp)] at there
    split at there
    case isTrue => cases there
    case isFalse => exact there

/-- Where a file was written, every path leads where it led. -/
lemma locate_withText (free : d.at? place ≠ some .directory) (p : Path) :
    (d.withText place text).locate p = d.locate p ∨
      ∃ e e', d.locate p = .error e ∧ (d.withText place text).locate p = .error e' ∧
        e ≠ .unusablePath ∧ e' ≠ .unusablePath := by
  have kept : d.Keeps (d.withText place text) ∧ (d.withText place text).Keeps d :=
    keeps_withText free
  have same : (d.withText place text).names p = d.names p := rfl
  rw [locate, locate, same]
  cases d.names p with
  | error e => exact .inl rfl
  | ok names => exact follow_same kept.1 kept.2 [] names

/-- Where a file was written, every path leads to the place that it led to. -/
@[simp] lemma place?_withText (free : d.at? place ≠ some .directory) (p : Path) :
    (d.withText place text).place? p = d.place? p := by
  rw [place?, place?]
  rcases @locate_withText _ _ text free p with same | ⟨e, e', failed, failed', -, -⟩
  · rw [same]
  · rw [failed, failed']

/-- Where a file was written, other places hold what they held. -/
lemma at?_withText {names : List String} (other : placeOf names ≠ placeOf place) :
    (d.withText place text).at? names = d.at? names := by
  cases names with
  | nil => rfl
  | cons n rest => rw [withText, at?_insert (by simp), if_neg other]

/-- Where a file was written, its place holds it. -/
lemma at?_withText_self {names : List String} (some : names ≠ [])
    (same : placeOf names = placeOf place) :
    (d.withText place text).at? names = .some (.file text) := by
  rw [withText, at?_insert some, if_pos same]

/-- Where a file was written, a path to another place shows what it showed. -/
lemma shows_withText (free : d.at? place ≠ some .directory)
    (other : d.place? p ≠ some (placeOf place)) : d.Shows (d.withText place text) p := by
  rcases @locate_withText _ _ text free p with same | ⟨e, e', failed, failed', he, he'⟩
  · cases located : d.locate p with
    | ok names =>
      refine shows_of_locate located (same.trans located) (at?_withText fun there => other ?_)
      exact place?_eq_some.2 ⟨names, located, there⟩
    | error e =>
      refine ⟨?_, fun there => ?_⟩
      · rw [pathExists, pathExists, entry?, entry?, same, located]
      · obtain ⟨names, found, -⟩ := locate_of_pathExists there
        rw [located] at found
        cases found
  · have missing := pathExists_of_error failed he
    refine ⟨by rw [pathExists_of_error failed' he', missing], fun there => ?_⟩
    rw [missing] at there
    cases there

/-- Where a file was written, a path that leads there shows it. -/
lemma read_withText (free : d.at? place ≠ some .directory) (own : d.locate p = .ok place) :
    (d.withText place text).pathExists p = .ok true ∧
      (d.withText place text).read p = .ok (String.ofList (unifyBreaks text.toList)) := by
  have located : (d.withText place text).locate p = .ok place :=
    follow_locate (keeps_withText free).1 rfl own
  have there : (d.withText place text).at? place = some (.file text) := by
    refine at?_withText_self ?_ rfl
    rintro rfl
    exact free rfl
  exact ⟨by rw [pathExists_of_locate located, there]; rfl, read_of_locate located there⟩

/-- Where a file was written, what is read in its place is its text. -/
lemma text_of_read (free : d.at? place ≠ some .directory) (own : d.place? p = some (placeOf place))
    {t : String} (h : (d.withText place text).read p = .ok t) :
    t = String.ofList (unifyBreaks text.toList) := by
  obtain ⟨names, located, same⟩ := place?_eq_some.1 own
  have located : (d.withText place text).locate p = .ok names :=
    follow_locate (keeps_withText free).1 rfl located
  cases names with
  | nil =>
    rw [read, located, ok_bind] at h
    cases h
  | cons n rest =>
    rw [read_of_locate located (at?_withText_self (by simp) same)] at h
    exact (Except.ok.inj h).symm

end

/-- Making directories leaves all that is there. -/
lemma makeDirectories_at? {here further : List String}
    (h : d.makeDirectories here further = .ok made) {names : List String} {e : DiskEntry}
    (there : d.at? names = some e) : made.at? names = some e := by
  induction d, here, further using makeDirectories.induct with
  | case1 d here =>
    rw [makeDirectories] at h
    cases h
    exact there
  | case2 d here rest ih =>
    rw [makeDirectories] at h
    exact ih h there
  | case3 d here n rest other long =>
    rw [makeDirectories, if_pos long] at h
    · cases h
    · exact other
  | case4 d here n rest other place short opened ih =>
    rw [makeDirectories, if_neg short, opened] at h
    · exact ih h there
    · exact other
  | case5 d here n rest other place short text closed =>
    rw [makeDirectories, if_neg short, closed] at h
    · cases h
    · exact other
  | case6 d here n rest other place short free ih =>
    rw [makeDirectories, if_neg short, free] at h
    · refine ih h ?_
      cases names with
      | nil => exact there
      | cons m others =>
        rw [at?_insert (by simp), if_neg]
        · exact there
        · intro same
          rw [at?, if_neg (by simp), same] at there
          rw [at?, if_neg (by simp [place]), there] at free
          cases free
    · exact other

/-- Where directories are made, a path to a file shows what it showed. -/
lemma shows_made (h : d.ensureDirectory p = .ok made) {q : Path} {text : String}
    (read : d.read q = .ok text) : d.Shows made q ∧ made.place? q = d.place? q := by
  obtain ⟨further, -, h⟩ := bind_eq_ok.1 h
  obtain ⟨keeps, base, -⟩ := makeDirectories_keeps h
  obtain ⟨names, located, there⟩ := bind_eq_ok.1 read
  have located' := follow_locate keeps base located
  refine ⟨shows_of_locate located located' ?_, by rw [place?, place?, located, located']⟩
  cases found : d.at? names with
  | none =>
    rw [found] at there
    cases there
  | some e => exact makeDirectories_at? h found

/-- The directories that further names lead through need not be made. -/
lemma makeDirectories_of_follow {here further names : List String} {n : String}
    (h : d.follow here (further ++ [n]) = .ok names) : d.makeDirectories here further = .ok d := by
  induction further generalizing here with
  | nil => rw [makeDirectories]
  | cons m rest ih =>
    by_cases back : m = ".."
    · subst back
      rw [List.cons_append, follow] at h
      rw [makeDirectories]
      exact ih h
    · rw [List.cons_append, follow_cons_eq_ok back (by simp)] at h
      obtain ⟨short, there, h⟩ := h
      rw [makeDirectories, if_neg (Nat.not_lt_of_le short), there]
      · exact ih h
      · exact back

/-- The names of a path are those that the working directory leads to it by. -/
lemma names_of_ok {steps : List String} (h : d.names p = .ok steps) :
    steps = (d.workingDirectory.join p).names := by
  rw [names] at h
  split at h
  case isTrue => cases h
  case isFalse =>
    split at h
    case isTrue => cases h
    case isFalse => exact (Except.ok.inj h).symm

/-- The directories that lead to where a path leads need not be made. -/
lemma made_of_locate (some : p.names ≠ []) {names : List String}
    (located : d.locate p = .ok names) (h : d.ensureDirectory p.parent = .ok made) : made = d := by
  obtain ⟨further, hf, h⟩ := bind_eq_ok.1 h
  obtain ⟨steps, hs, e⟩ := bind_eq_ok.1 located
  have own : p.names = p.parent.names ++ [p.name] := by
    rw [Path.parent, Path.name, List.getLastD_eq_getLast?, List.getLast?_eq_getLast_of_ne_nil some,
      Option.getD_some, List.dropLast_concat_getLast]
  have split : steps = further ++ [p.name] := by
    have base : p.parent.absolute = p.absolute := rfl
    rw [names_of_ok hs, names_of_ok hf, Path.join, Path.join, base]
    split
    case isTrue => exact own
    case isFalse => rw [own, List.append_assoc]
  rw [split] at e
  exact Except.ok.inj (h.symm.trans (makeDirectories_of_follow e))

end Inspection.Disk
