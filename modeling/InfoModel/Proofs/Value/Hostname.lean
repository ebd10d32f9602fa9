import InfoModel.Datatype.Parse
import InfoModel.Proofs.Outcome
import InfoModel.Proofs.Text.Cut
import Mathlib.Data.List.Chain

/-!
# Host names by their form

A host name is a sequence of labels with one dot between any two of them, and perhaps one behind the
last. What is read leaves all dots at the end aside before it looks for labels, so the empty labels
between two dots there are not seen. Main statement: `Datatype.hostname_byForm_iff`.
-/

namespace InfoModel
open InfoModel.Text InfoModel.Unicode

variable {cs name : List Char}

def SingleDots (cs : List Char) : Prop := ¬ ['.', '.'] <:+: cs

/-- There is a dot neither at an end nor beside another one. -/
structure DotsInside (cs : List Char) : Prop where
  nonempty : cs ≠ []
  first : cs.head? ≠ some '.'
  last : cs.getLast? ≠ some '.'
  apart : cs.IsChain fun a b => ¬ (a = '.' ∧ b = '.')

namespace DotsInside

theorem of_not_mem (hne : cs ≠ []) (h : '.' ∉ cs) : DotsInside cs where
  nonempty := hne
  first := fun hdot => h (List.mem_of_head? hdot)
  last := fun hdot => h (List.mem_of_getLast? hdot)
  apart := by
    refine List.Pairwise.isChain (List.pairwise_of_forall_mem_list fun a ha b _ hdots => ?_)
    exact h (hdots.1 ▸ ha)

theorem isChain_concat (h : DotsInside cs) :
    (cs ++ ['.']).IsChain fun a b => ¬ (a = '.' ∧ b = '.') := by
  refine List.isChain_append.mpr ⟨h.apart, List.isChain_singleton _, ?_⟩
  rintro a ha b - ⟨rfl, -⟩
  exact h.last ha

theorem join {after : List Char} (h : DotsInside cs) (h' : DotsInside after) :
    DotsInside (cs ++ '.' :: after) where
  nonempty := List.append_ne_nil_of_left_ne_nil h.nonempty _
  first := by
    rw [List.head?_append_of_ne_nil cs h.nonempty]
    exact h.first
  last := by
    obtain ⟨c, rest, rfl⟩ := List.exists_cons_of_ne_nil h'.nonempty
    simpa using h'.last
  apart := by
    have hjoined : cs ++ '.' :: after = (cs ++ ['.']) ++ after := by simp
    rw [hjoined, List.isChain_append]
    refine ⟨h.isChain_concat, h'.apart, ?_⟩
    rintro a - b hb ⟨-, rfl⟩
    exact h'.first hb

theorem singleDots (h : DotsInside cs) : SingleDots cs ∧ SingleDots (cs ++ ['.']) := by
  have hchain : ∀ ds : List Char, ds.IsChain (fun a b => ¬ (a = '.' ∧ b = '.')) →
      SingleDots ds := by
    intro ds hds hpair
    have hdots := List.IsChain.infix hds hpair
    exact (List.isChain_cons_cons.mp hdots).1 ⟨rfl, rfl⟩
  exact ⟨hchain cs h.apart, hchain _ h.isChain_concat⟩

end DotsInside

theorem withoutFinalDots_append (h : name.getLast? ≠ some '.') (n : Nat) :
    withoutFinalDots (name ++ List.replicate n '.') = name := by
  have hfirst : ∀ c ∈ name.reverse.head?, decide (c = '.') = false := by
    intro c hc
    rw [List.head?_reverse] at hc
    exact decide_eq_false fun hdot => h (hdot ▸ hc)
  unfold withoutFinalDots
  rw [List.reverse_append, List.reverse_replicate,
    List.dropWhile_append_of_pos fun c hc => decide_eq_true (List.eq_of_mem_replicate hc),
    dropWhile_eq_self _ hfirst, List.reverse_reverse]

theorem exists_withoutFinalDots (cs : List Char) :
    ∃ n, cs = withoutFinalDots cs ++ List.replicate n '.' := by
  have hdots : cs.reverse.takeWhile (· = '.') =
      List.replicate (cs.reverse.takeWhile (· = '.')).length '.' := by
    refine List.eq_replicate_of_mem fun c hc => ?_
    exact of_decide_eq_true (List.all_eq_true.mp List.all_takeWhile c hc)
  refine ⟨(cs.reverse.takeWhile (· = '.')).length, ?_⟩
  unfold withoutFinalDots
  rw [← List.reverse_replicate, ← hdots, ← List.reverse_append,
    List.takeWhile_append_dropWhile, List.reverse_reverse]

/-- A label: 1 to 63 bytes of alphanumeric characters and hyphens, with no hyphen at either end. -/
structure Label (cs : List Char) : Prop where
  nonempty : cs ≠ []
  size : byteCount cs ≤ 63
  chars : ∀ c ∈ cs, isAlphanumeric c = true ∨ c = '-'
  first : cs.head? ≠ some '-'
  last : cs.getLast? ≠ some '-'

def Labels (cs : List Char) : Prop :=
  ∃ labels, labels ≠ [] ∧ (∀ label ∈ labels, Label label) ∧ ['.'].intercalate labels = cs

theorem isLabel_iff : isLabel cs = true ↔ Label cs := by
  unfold isLabel
  simp only [Bool.and_eq_true, Bool.not_eq_true', List.isEmpty_eq_false_iff, decide_eq_true_eq,
    bne_iff_ne, List.all_eq_true, Bool.or_eq_true]
  constructor
  · rintro ⟨⟨⟨⟨nonempty, size⟩, first⟩, last⟩, chars⟩
    exact ⟨nonempty, size, chars, first, last⟩
  · rintro ⟨nonempty, size, chars, first, last⟩
    exact ⟨⟨⟨⟨nonempty, size⟩, first⟩, last⟩, chars⟩

theorem Label.not_mem_dot (h : Label cs) : '.' ∉ cs := by
  intro hmem
  rcases h.chars '.' hmem with halnum | hhyphen
  · exact absurd halnum (by decide)
  · exact absurd hhyphen (by decide)

theorem all_pieces_iff : (pieces '.' cs).all isLabel = true ↔ Labels cs := by
  rw [List.all_eq_true]
  constructor
  · intro h
    obtain ⟨hne, -, hjoined⟩ := pieces_eq_iff.mp (rfl : pieces '.' cs = pieces '.' cs)
    exact ⟨_, hne, fun label hlabel => isLabel_iff.mp (h label hlabel), hjoined⟩
  · rintro ⟨labels, hne, hlabels, rfl⟩ label hmem
    have hpieces : pieces '.' (['.'].intercalate labels) = labels :=
      pieces_eq_iff.mpr ⟨hne, fun label hlabel => (hlabels label hlabel).not_mem_dot, rfl⟩
    rw [hpieces] at hmem
    exact isLabel_iff.mpr (hlabels label hmem)

theorem Labels.dotsInside (h : Labels cs) : DotsInside cs := by
  obtain ⟨labels, hne, hlabels, rfl⟩ := h
  induction labels with
  | nil => exact absurd rfl hne
  | cons first rest ih =>
    obtain ⟨hfirst, hrest⟩ := List.forall_mem_cons.mp hlabels
    have hdots := DotsInside.of_not_mem hfirst.nonempty hfirst.not_mem_dot
    cases rest with
    | nil => rwa [List.intercalate_singleton]
    | cons second rest =>
      rw [List.intercalate_cons_cons, List.append_assoc]
      exact hdots.join (ih (List.cons_ne_nil second rest) hrest)

/-- A host name: 1 to 253 bytes, which are labels once a dot at the end is left aside. -/
structure HostName (cs : List Char) : Prop where
  nonempty : 1 ≤ byteCount cs
  size : byteCount cs ≤ 253
  labels : ∃ name, Labels name ∧ (cs = name ∨ cs = name ++ ['.'])

/-- The text would be a host name but for more dots at its end than one. -/
structure EndsInDots (cs : List Char) : Prop where
  size : byteCount cs ≤ 253
  labels : ∃ name n, Labels name ∧ cs = name ++ List.replicate (n + 2) '.'

theorem one_le_byteCount (h : cs ≠ []) : 1 ≤ byteCount cs := by
  obtain ⟨c, rest, rfl⟩ := List.exists_cons_of_ne_nil h
  have hwidth := c.utf8Size_pos
  unfold byteCount
  omega

theorem HostName.singleDots (h : HostName cs) : SingleDots cs := by
  obtain ⟨name, hname, rfl | rfl⟩ := h.labels
  · exact hname.dotsInside.singleDots.1
  · exact hname.dotsInside.singleDots.2

theorem EndsInDots.not_singleDots (h : EndsInDots cs) : ¬ SingleDots cs := by
  obtain ⟨name, n, -, rfl⟩ := h.labels
  intro hsingle
  refine hsingle ⟨name, List.replicate n '.', ?_⟩
  rw [List.append_assoc]
  rfl

theorem isHostname_iff_dots : isHostname cs = true ↔
    byteCount cs ≤ 253 ∧ ∃ name n, Labels name ∧ cs = name ++ List.replicate n '.' := by
  unfold isHostname
  simp only [Bool.and_eq_true, Bool.not_eq_true', List.isEmpty_eq_false_iff, decide_eq_true_eq,
    all_pieces_iff]
  constructor
  · rintro ⟨⟨-, hsize⟩, hlabels⟩
    obtain ⟨n, hn⟩ := exists_withoutFinalDots cs
    exact ⟨hsize, _, n, hlabels, hn⟩
  · rintro ⟨hsize, name, n, hlabels, rfl⟩
    have hdots := hlabels.dotsInside
    rw [withoutFinalDots_append hdots.last]
    exact ⟨⟨List.append_ne_nil_of_left_ne_nil hdots.nonempty _, hsize⟩, hlabels⟩

theorem isHostname_iff : isHostname cs = true ↔ HostName cs ∨ EndsInDots cs := by
  rw [isHostname_iff_dots]
  constructor
  · rintro ⟨hsize, name, n, hlabels, rfl⟩
    have hne := hlabels.dotsInside.nonempty
    have hnonempty :=
      one_le_byteCount (List.append_ne_nil_of_left_ne_nil hne (List.replicate n '.'))
    match n with
    | 0 => exact .inl ⟨hnonempty, hsize, name, hlabels, .inl (List.append_nil name)⟩
    | 1 => exact .inl ⟨hnonempty, hsize, name, hlabels, .inr rfl⟩
    | n + 2 => exact .inr ⟨hsize, name, n, hlabels, rfl⟩
  · rintro (⟨-, hsize, name, hlabels, rfl | rfl⟩ | ⟨hsize, name, n, hlabels, rfl⟩)
    · exact ⟨hsize, cs, 0, hlabels, (List.append_nil cs).symm⟩
    · exact ⟨hsize, name, 1, hlabels, rfl⟩
    · exact ⟨hsize, name, n + 2, hlabels, rfl⟩

/-- A mailbox, which may have any characters but blanks and at-signs. -/
structure Mailbox (cs : List Char) : Prop where
  nonempty : cs ≠ []
  chars : ∀ c ∈ cs, c ≠ '@' ∧ isBlank c = false

theorem isMailAddress_iff : isMailAddress cs = true ↔ ∃ mailbox host,
    cs = mailbox ++ '@' :: host ∧ Mailbox mailbox ∧ isHostname host = true := by
  unfold isMailAddress
  constructor
  · intro h
    split at h
    · next mailbox host hcut =>
      obtain ⟨rfl, hfree⟩ := cutFirst_eq_some_iff.mp hcut
      simp only [Bool.and_eq_true, Bool.not_eq_true', List.isEmpty_eq_false_iff,
        List.any_eq_false] at h
      obtain ⟨⟨hne, hblank⟩, hhost⟩ := h
      refine ⟨mailbox, host, rfl, ⟨hne, fun c hc => ⟨?_, by simpa using hblank c hc⟩⟩, hhost⟩
      rintro rfl
      exact hfree hc
    · cases h
  · rintro ⟨mailbox, host, rfl, hmailbox, hhost⟩
    rw [cutFirst_append fun hmem => (hmailbox.chars '@' hmem).1 rfl]
    simp only [hhost, Bool.and_true, Bool.and_eq_true, Bool.not_eq_true',
      List.isEmpty_eq_false_iff, List.any_eq_false]
    exact ⟨hmailbox.nonempty, fun c hc => by simp [(hmailbox.chars c hc).2]⟩

namespace Datatype

variable {text : String} {v : Value}

theorem hostname_parse_eq_ok_iff : hostname.parse text = .ok v ↔
    v = .text (trim text) ∧
      (HostName (trimChars text.toList) ∨ EndsInDots (trimChars text.toList)) := by
  rw [← isHostname_iff, and_comm]
  exact map_readText_eq_ok_iff

theorem emailAddress_parse_eq_ok_iff : emailAddress.parse text = .ok v ↔
    v = .text (trim text) ∧ ∃ mailbox host, trimChars text.toList = mailbox ++ '@' :: host ∧
      Mailbox mailbox ∧ (HostName host ∨ EndsInDots host) := by
  simp only [← isHostname_iff]
  rw [← isMailAddress_iff, and_comm]
  exact map_readText_eq_ok_iff

/-- Of the text, blanks around it left out, host names are accepted and nothing else is, and nothing
accepted has two dots together. -/
def HostnameByForm (text : String) : Prop :=
  ((∃ v, hostname.parse text = .ok v) ↔ HostName (trimChars text.toList)) ∧
  ((∃ v, hostname.parse text = .ok v) → SingleDots (trimChars text.toList))

/-- If the text is accepted as a mail address, then no two dots stand together in its domain. -/
def MailByForm (text : String) : Prop :=
  (∃ v, emailAddress.parse text = .ok v) → ∀ mailbox host,
    trimChars text.toList = mailbox ++ '@' :: host → Mailbox mailbox → SingleDots host

theorem hostnameByForm_iff :
    HostnameByForm text ↔ ¬ EndsInDots (trimChars text.toList) := by
  constructor
  · rintro ⟨-, hsingle⟩ hdots
    exact hdots.not_singleDots (hsingle ⟨_, hostname_parse_eq_ok_iff.mpr ⟨rfl, .inr hdots⟩⟩)
  · intro hnone
    have hname : ∀ v, hostname.parse text = .ok v → HostName (trimChars text.toList) := by
      intro v hv
      exact (hostname_parse_eq_ok_iff.mp hv).2.resolve_right hnone
    refine ⟨⟨?_, fun h => ⟨_, hostname_parse_eq_ok_iff.mpr ⟨rfl, .inl h⟩⟩⟩, ?_⟩
    · rintro ⟨v, hv⟩
      exact hname v hv
    · rintro ⟨v, hv⟩
      exact (hname v hv).singleDots

theorem eq_of_mailbox {a b host host' : List Char} (ha : Mailbox a) (hb : Mailbox b)
    (h : a ++ '@' :: host = b ++ '@' :: host') : a = b ∧ host = host' := by
  have hcut := cutFirst_append (fun hmem => (ha.chars '@' hmem).1 rfl) host
  rw [h, cutFirst_append fun hmem => (hb.chars '@' hmem).1 rfl] at hcut
  cases hcut
  exact ⟨rfl, rfl⟩

theorem mailByForm_iff : MailByForm text ↔ ∀ mailbox host,
    trimChars text.toList = mailbox ++ '@' :: host → Mailbox mailbox → ¬ EndsInDots host := by
  constructor
  · intro hform mailbox host htext hmailbox hdots
    have haccepted := emailAddress_parse_eq_ok_iff.mpr
      ⟨rfl, mailbox, host, htext, hmailbox, .inr hdots⟩
    exact hdots.not_singleDots (hform ⟨_, haccepted⟩ mailbox host htext hmailbox)
  · rintro hnone ⟨v, hv⟩ mailbox host htext hmailbox
    obtain ⟨-, mailbox', host', htext', hmailbox', hhost⟩ := emailAddress_parse_eq_ok_iff.mp hv
    obtain ⟨rfl, rfl⟩ := eq_of_mailbox hmailbox hmailbox' (htext.symm.trans htext')
    exact (hhost.resolve_right (hnone mailbox host htext hmailbox)).singleDots

/-- A text is accepted as a host name by its form, or with more dots at its end than one, and so is
the domain of a mail address. The forms say what is accepted exactly where the latter is not so, and
only then do no two dots stand together. -/
theorem hostname_byForm_iff (text : String) :
    (∀ v, hostname.parse text = .ok v ↔ v = .text (trim text) ∧
      (HostName (trimChars text.toList) ∨ EndsInDots (trimChars text.toList))) ∧
    (∀ v, emailAddress.parse text = .ok v ↔ v = .text (trim text) ∧ ∃ mailbox host,
      trimChars text.toList = mailbox ++ '@' :: host ∧ Mailbox mailbox ∧
        (HostName host ∨ EndsInDots host)) ∧
    (HostnameByForm text ↔ ¬ EndsInDots (trimChars text.toList)) ∧
    (MailByForm text ↔ ∀ mailbox host, trimChars text.toList = mailbox ++ '@' :: host →
      Mailbox mailbox → ¬ EndsInDots host) :=
  ⟨fun _ => hostname_parse_eq_ok_iff, fun _ => emailAddress_parse_eq_ok_iff, hostnameByForm_iff,
    mailByForm_iff⟩

/-- Two dots at the end are accepted, in a domain too. -/
theorem hostname_two_final_dots :
    hostname.parse "a.." = .ok (.text "a..") ∧ ¬ HostnameByForm "a.." ∧
      emailAddress.parse "b@a.." = .ok (.text "b@a..") ∧ ¬ MailByForm "b@a.." := by
  have hlabel : Label ['a'] := isLabel_iff.mp (by decide)
  have hlabels : Labels ['a'] :=
    ⟨[['a']], List.cons_ne_nil _ _, List.forall_mem_singleton.mpr hlabel, rfl⟩
  have hdots : EndsInDots "a..".toList := ⟨by decide, ['a'], 0, hlabels, rfl⟩
  have hmailbox : Mailbox ['b'] :=
    ⟨List.cons_ne_nil _ _, List.forall_mem_singleton.mpr (by decide)⟩
  have htrimmed : trimChars "a..".toList = "a..".toList := by decide
  have hmail : trimChars "b@a..".toList = ['b'] ++ '@' :: "a..".toList := by decide
  refine ⟨?_, ?_, ?_, ?_⟩
  · exact hostname_parse_eq_ok_iff.mpr ⟨rfl, .inr (htrimmed ▸ hdots)⟩
  · exact fun hform => hostnameByForm_iff.mp hform (htrimmed ▸ hdots)
  · exact emailAddress_parse_eq_ok_iff.mpr ⟨rfl, _, _, hmail, hmailbox, .inr hdots⟩
  · exact fun hform => mailByForm_iff.mp hform _ _ hmail hmailbox hdots

end Datatype

end InfoModel
