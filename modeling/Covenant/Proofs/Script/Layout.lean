import Covenant.Proofs.Script.Headers
import Covenant.Proofs.Text.Layout

/-!
# Sources as they are laid out

A source presents its texts line by line, each with any blanks in front of it and with blanks and a
comment behind it, and with any lines between them that are blank but for a comment. If no text holds
what looks like a comment, and none ends with a slash that a comment follows at once, then what counts
of the lines is those texts, and the source is read as they are.
-/

namespace Covenant.Script

variable {text line front back : List Char} {texts lines : List (List Char)} {ecosystem : Int}
  {progress next after : Progress} {number : Nat} {c : Char}

/-! ## Lines -/

/-- No comment begins in the text. -/
def Uncommented (text : List Char) : Prop :=
  ¬['/', '/'] <:+: text

instance (text : List Char) : Decidable (Uncommented text) :=
  inferInstanceAs (Decidable ¬_)

/-- What may stand behind the text of a line: blanks, and a comment. -/
inductive Trails : List Char → Prop
  | blanks {blanks : List Char} : (∀ c ∈ blanks, Text.isBlank c = true) → Trails blanks
  | comment {blanks remark : List Char} : (∀ c ∈ blanks, Text.isBlank c = true) →
      Trails (blanks ++ '/' :: '/' :: remark)

/-- The line consists of blanks, the text, and what may stand behind it. -/
structure Frames (text line front behind : List Char) : Prop where
  line_eq : line = front ++ (text ++ behind)
  blank : ∀ c ∈ front, Text.isBlank c = true
  trails : Trails behind
  single : '\n' ∉ front ∧ '\n' ∉ behind

/-- The line shows the text. -/
def Shows (text line : List Char) : Prop :=
  ∃ front behind, Frames text line front behind

/-- The line shows the text, and no comment runs into a slash at its end. -/
def ShowsApart (text line : List Char) : Prop :=
  ∃ front behind, Frames text line front behind ∧ ('/' ∈ text.getLast? → '/' ∉ behind.head?)

/-- The lines show the texts in order; between them lines may stand that show nothing. -/
inductive LaidOut (shows : List Char → List Char → Prop) :
    List (List Char) → List (List Char) → Prop
  | nil : LaidOut shows [] []
  | blank {line : List Char} {texts lines : List (List Char)} : shows [] line →
      LaidOut shows texts lines → LaidOut shows texts (line :: lines)
  | line {text line : List Char} {texts lines : List (List Char)} : shows text line →
      LaidOut shows texts lines → LaidOut shows (text :: texts) (line :: lines)

/-- The source presents the texts, line by line. -/
def Presents (shows : List Char → List Char → Prop) (texts : List (List Char)) (source : String) :
    Prop :=
  ∃ lines, LaidOut shows texts lines ∧ source.toList = ['\n'].intercalate lines

/-- A text that one line can show: it has no blanks around it and no comment in it. -/
structure Clean (text : List Char) : Prop where
  trimmed : Text.IsTrimmed text
  uncommented : Uncommented text
  single : '\n' ∉ text

instance (text : List Char) : Decidable (Clean text) :=
  decidable_of_iff (Text.IsTrimmed text ∧ Uncommented text ∧ '\n' ∉ text)
    ⟨fun h => ⟨h.1, h.2.1, h.2.2⟩, fun h => ⟨h.trimmed, h.uncommented, h.single⟩⟩

/-! ## What counts of a line -/

theorem uncommented_cons : Uncommented (c :: text) ↔
    ¬(c = '/' ∧ '/' ∈ text.head?) ∧ Uncommented text := by
  have hhead : ['/'] <+: text ↔ '/' ∈ text.head? := by
    cases text with
    | nil => simp
    | cons d rest => simp [eq_comm]
  rw [Uncommented, List.infix_cons_iff, not_or, List.cons_prefix_cons, hhead, eq_comm]
  rfl

/-- No comment begins in texts without one where any character but a slash keeps them apart. -/
theorem Uncommented.append (hfront : Uncommented front) (hback : Uncommented back) (hc : c ≠ '/') :
    Uncommented (front ++ c :: back) := by
  induction front with
  | nil => exact uncommented_cons.mpr ⟨fun hpair => hc hpair.1, hback⟩
  | cons d rest ih =>
    obtain ⟨hpair, hrest⟩ := uncommented_cons.mp hfront
    refine uncommented_cons.mpr ⟨fun hslash => ?_, ih hrest⟩
    cases rest with
    | nil => exact hc (Option.some.inj hslash.2)
    | cons e rest => exact hpair hslash

/-- A comment does not begin in a text without one, or where such a text ends, unless both have a slash
there. -/
theorem beforeComment_append (h : Uncommented front)
    (hjoin : '/' ∈ front.getLast? → '/' ∉ back.head?) :
    beforeComment (front ++ back) = front ++ beforeComment back := by
  induction front with
  | nil => rfl
  | cons c rest ih =>
    obtain ⟨hnone, htail⟩ := uncommented_cons.mp h
    -- Two slashes in a row would stand in the front, or one on each side of the seam.
    have hpair : ∀ more, c = '/' → rest ++ back = '/' :: more → False := by
      rintro more rfl hmore
      cases rest with
      | nil =>
        obtain rfl : back = '/' :: more := hmore
        exact hjoin rfl rfl
      | cons d rest =>
        obtain rfl : d = '/' := (List.cons.inj hmore).1
        exact hnone ⟨rfl, rfl⟩
    have hrest : '/' ∈ rest.getLast? → '/' ∉ back.head? := by
      intro hlast
      refine hjoin ?_
      have hne : rest ≠ [] := by
        rintro rfl
        cases hlast
      rwa [List.getLast?_cons_of_ne_nil hne]
    rw [List.cons_append, beforeComment, ih htail hrest]
    · rfl
    · exact hpair

theorem uncommented_of_blank (h : ∀ c ∈ text, Text.isBlank c = true) : Uncommented text := by
  intro hslashes
  have hslash := h '/' (hslashes.subset List.mem_cons_self)
  exact absurd hslash (by decide)

theorem beforeComment_blank_append (h : ∀ c ∈ front, Text.isBlank c = true) :
    beforeComment (front ++ back) = front ++ beforeComment back := by
  refine beforeComment_append (uncommented_of_blank h) fun hlast => ?_
  have hslash := h '/' (List.mem_of_mem_getLast? hlast)
  exact absurd hslash (by decide)

/-- What counts of what stands behind a text is blank. -/
theorem Trails.beforeComment_blank (h : Trails text) :
    ∀ c ∈ beforeComment text, Text.isBlank c = true := by
  cases h with
  | blanks hblank =>
    have hall : beforeComment (text ++ []) = text ++ beforeComment [] :=
      beforeComment_blank_append hblank
    rw [List.append_nil] at hall
    rw [hall]
    simpa [beforeComment] using hblank
  | comment hblank =>
    rw [beforeComment_blank_append hblank]
    simpa [beforeComment] using hblank

/-- What counts of a line is the text that it shows. -/
theorem content_of_showsApart (h : ShowsApart text line) (hclean : Clean text) :
    content line = text := by
  obtain ⟨front, behind, hframes, happart⟩ := h
  rw [content, hframes.line_eq, beforeComment_blank_append hframes.blank,
    beforeComment_append hclean.uncommented happart]
  exact Text.trim_pad hclean.trimmed hframes.blank hframes.trails.beforeComment_blank

theorem ShowsApart.single (h : ShowsApart text line) (hclean : Clean text) : '\n' ∉ line := by
  obtain ⟨front, behind, hframes, -⟩ := h
  simp [hframes.line_eq, hframes.single.1, hframes.single.2, hclean.single]

theorem clean_nil : Clean [] where
  trimmed := ⟨nofun, nofun⟩
  uncommented := by simp [Uncommented]
  single := List.not_mem_nil

/-- Blanks in front of a text do not hide it. -/
theorem showsApart_indent (hblank : ∀ c ∈ front, Text.isBlank c = true) (hsingle : '\n' ∉ front) :
    ShowsApart text (front ++ text) := by
  refine ⟨front, [], ⟨?_, hblank, .blanks (List.forall_mem_nil _), hsingle, List.not_mem_nil⟩, ?_⟩
  · rw [List.append_nil]
  · exact fun _ => nofun

theorem shows_self (text : List Char) : Shows text text := by
  have hshows : ShowsApart text ([] ++ text) :=
    showsApart_indent (List.forall_mem_nil _) List.not_mem_nil
  obtain ⟨front, behind, hframes, -⟩ := hshows
  exact ⟨front, behind, hframes⟩

/-- Lines that show one text each show all of them. -/
theorem laidOut_map {shows : List Char → List Char → Prop} {lineOf : List Char → List Char}
    (h : ∀ text ∈ texts, shows text (lineOf text)) : LaidOut shows texts (texts.map lineOf) := by
  induction texts with
  | nil => exact .nil
  | cons text rest ih =>
    obtain ⟨htext, hrest⟩ := List.forall_mem_cons.mp h
    exact .line htext (ih hrest)

theorem laidOut_self (texts : List (List Char)) : LaidOut Shows texts texts := by
  have hlines : LaidOut Shows texts (texts.map id) := laidOut_map fun text _ => shows_self text
  rwa [List.map_id] at hlines

/-- No line feed stands in a line. -/
theorem LaidOut.single (h : LaidOut ShowsApart texts lines) (hclean : ∀ text ∈ texts, Clean text) :
    ∀ line ∈ lines, '\n' ∉ line := by
  induction h with
  | nil => exact List.forall_mem_nil _
  | blank hshows _ ih => exact List.forall_mem_cons.mpr ⟨hshows.single clean_nil, ih hclean⟩
  | line hshows _ ih =>
    obtain ⟨htext, hrest⟩ := List.forall_mem_cons.mp hclean
    exact List.forall_mem_cons.mpr ⟨hshows.single htext, ih hrest⟩

/-! ## Carriage returns -/

theorem beforeComment_concat (hc : c ≠ '/') (text : List Char) :
    beforeComment (text ++ [c]) = beforeComment text ∨
      beforeComment (text ++ [c]) = beforeComment text ++ [c] := by
  fun_induction beforeComment text with
  | case1 =>
    right
    simp [beforeComment]
  | case2 rest =>
    left
    simp [beforeComment]
  | case3 d rest hpair ih =>
    have hpair' : ∀ more, d = '/' → rest ++ [c] = '/' :: more → False := by
      intro more hd hmore
      cases rest with
      | nil => exact hc (List.cons.inj hmore).1
      | cons e rest => exact hpair rest hd (by rw [(List.cons.inj hmore).1])
    rw [List.cons_append, beforeComment]
    · simpa using ih
    · exact hpair'

/-- A carriage return at the end of a line does not count. -/
theorem content_dropReturn (line : List Char) : content (Text.dropReturn line) = content line := by
  unfold Text.dropReturn
  split
  next hreturn =>
    obtain ⟨front, rfl⟩ := List.getLast?_eq_some_iff.mp (eq_of_beq hreturn)
    rw [List.dropLast_concat, content, content]
    rcases beforeComment_concat (show '\r' ≠ '/' by decide) front with hsame | hmore
    · rw [hsame]
    · rw [hmore, Text.trim_concat (by decide)]
  next => rfl

/-! ## Reading -/

/-- Reading the texts one by one leads from one progress to the other, whatever the numbers of the
lines. -/
inductive ReadsTo (ecosystem : Int) : List (List Char) → Progress → Progress → Prop
  | nil (progress : Progress) : ReadsTo ecosystem [] progress progress
  | cons {text : List Char} {texts : List (List Char)} {progress next after : Progress} :
      (∀ number, readLine ecosystem number text progress = .ok next) →
      ReadsTo ecosystem texts next after → ReadsTo ecosystem (text :: texts) progress after

theorem ReadsTo.append {more : List (List Char)} (h : ReadsTo ecosystem texts progress next)
    (hmore : ReadsTo ecosystem more next after) :
    ReadsTo ecosystem (texts ++ more) progress after := by
  induction h with
  | nil _ => exact hmore
  | cons hread _ ih => exact .cons hread (ih hmore)

/-- Lines are read as the texts that they show. -/
theorem readLines_of_laidOut (hlaid : LaidOut ShowsApart texts lines)
    (hclean : ∀ text ∈ texts, Clean text) (h : ReadsTo ecosystem texts progress next) :
    readLines ecosystem number lines progress = .ok next := by
  induction hlaid generalizing progress number with
  | nil =>
    cases h
    rfl
  | blank hshows _ ih =>
    rw [readLines, content_of_showsApart hshows clean_nil]
    exact ih hclean h
  | line hshows _ ih =>
    obtain ⟨htext, hrest⟩ := List.forall_mem_cons.mp hclean
    cases h with
    | cons hread hreads =>
      rw [readLines, content_of_showsApart hshows htext, hread]
      exact ih hrest hreads

theorem readLines_cons_congr {other : List Char} (h : content text = content other)
    (hrest : ∀ number progress, readLines ecosystem number texts progress =
      readLines ecosystem number lines progress) :
    readLines ecosystem number (text :: texts) progress =
      readLines ecosystem number (other :: lines) progress := by
  simp only [readLines, h, hrest]

/-- The ends of lines do not count. -/
theorem readLines_linesOfPieces (lines : List (List Char)) :
    readLines ecosystem number (Text.linesOfPieces lines) progress =
      readLines ecosystem number lines progress := by
  fun_induction Text.linesOfPieces lines generalizing number progress with
  | case1 => rfl
  | case2 last hnone =>
    rw [List.isEmpty_iff.mp hnone]
    rfl
  | case3 last _ => rfl
  | case4 line next rest ih =>
    exact readLines_cons_congr (content_dropReturn line) fun number progress => ih

/-- A source is read as the texts that it presents. -/
theorem parse_of_presents {source : String} {units : List SourceUnit}
    (hsource : Presents ShowsApart texts source) (hclean : ∀ text ∈ texts, Clean text)
    (h : ReadsTo ecosystem texts ⟨[], .top⟩ ⟨units, .top⟩) :
    parse ecosystem source = .ok units.reverse := by
  obtain ⟨lines, hlaid, hlines⟩ := hsource
  have hread : readLines ecosystem 1 (Text.lines source.toList) ⟨[], .top⟩ = .ok ⟨units, .top⟩ := by
    rw [hlines, Text.lines_intercalate (hlaid.single hclean), readLines_linesOfPieces]
    exact readLines_of_laidOut hlaid hclean h
  rw [parse, hread]
  rfl

end Covenant.Script
