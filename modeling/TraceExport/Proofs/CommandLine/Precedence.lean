/-
Options over settings. What the options say holds in the settings that they are applied to, what they say
nothing about stays as it was, and applying them again changes nothing. For the keyword that makes an
order: the categories on the command line decide it alone, without these the keyword on the command line
does, and without either the settings do, by a keyword of their own before categories of their own. What
does not decide is not looked at, so it cannot be wrong.
-/
import TraceExport.CommandLine.Options
import TraceExport.Proofs.Registry.Selection

namespace TraceExport

/-! ## The keyword of a session -/

namespace Settings.Session

variable {s t : Session} {r : Registry}

theorem resolve_of_text {text : String} (h : s.keyword = some text) :
    s.resolve r = ((Keyword.parse text).map some).mapError .text := by
  unfold resolve
  rw [h]
  dsimp only
  cases Keyword.parse text <;> rfl

theorem resolve_of_categories (hk : s.keyword = none) (hc : s.categories ≠ []) :
    s.resolve r = ((r.select s.categories).map some).mapError .categories := by
  unfold resolve
  rw [hk, List.isEmpty_eq_false_iff.2 hc]
  dsimp only
  cases r.select s.categories <;> rfl

/-- Whether anybody listens makes no difference to the keyword. -/
theorem resolve_congr (hk : t.keyword = s.keyword) (hc : t.categories = s.categories) :
    t.resolve r = s.resolve r := by
  unfold resolve
  rw [hk, hc]

end Settings.Session

namespace CommandLine

/-! ## What options do to settings -/

/-- The settings have what the options say. -/
structure Options.Met (o : Options) (s : Settings) : Prop where
  /-- Categories stand without a keyword, which would count before them. -/
  categories : o.enable ≠ [] → s.session.keyword = none ∧ s.session.categories = o.enable
  keyword : o.enable = [] → ∀ text, o.keyword = some text → s.session.keyword = some text
  unheard : o.noListener = true → s.session.listening = false
  path : ∀ path, o.output = some path → s.output.path = some path
  format : ∀ format, o.format = some format → s.output.format = format
  rendered : o.renderAll = true → s.profile.skipped = []

/-- Settings have what others have where the options say nothing. -/
structure Options.Leaves (o : Options) (s t : Settings) : Prop where
  keyword : o.enable = [] → o.keyword = none → t.session.keyword = s.session.keyword
  categories : o.enable = [] → t.session.categories = s.session.categories
  listening : o.noListener = false → t.session.listening = s.session.listening
  path : o.output = none → t.output.path = s.output.path
  format : o.format = none → t.output.format = s.output.format
  skipped : o.renderAll = false → t.profile.skipped = s.profile.skipped
  filtered : t.profile.filtered = s.profile.filtered
  events : t.events = s.events

namespace Options

variable {o : Options} {s t : Settings} {r : Registry}

theorem met_apply (o : Options) (s : Settings) : o.Met (o.apply s) := by
  unfold apply
  constructor
  · intro he
    rw [List.isEmpty_eq_false_iff.2 he]
    exact ⟨rfl, rfl⟩
  · intro he text hk
    rw [he, hk]
    rfl
  · intro hn
    simp only [hn, Bool.not_true, Bool.and_false]
  · intro path hp
    rw [hp]
    rfl
  · intro format hf
    rw [hf]
    rfl
  · intro ha
    rw [if_pos ha]
    rfl

theorem leaves_apply (o : Options) (s : Settings) : o.Leaves s (o.apply s) := by
  unfold apply
  constructor
  · intro he hk
    rw [he, hk]
    rfl
  · intro he
    rw [he]
    rfl
  · intro hn
    rw [hn]
    cases o.enable.isEmpty <;> exact Bool.and_true _
  · intro hp
    rw [hp]
    rfl
  · intro hf
    rw [hf]
    rfl
  · intro ha
    rw [ha]
    rfl
  · cases o.renderAll <;> rfl
  · rfl

/-- Options that say what the settings have already change nothing. -/
theorem Met.apply_eq (h : o.Met s) : o.apply s = s := by
  obtain ⟨⟨keyword, categories, listening⟩, ⟨filtered, skipped⟩, ⟨path, format⟩, events⟩ := s
  have hprofile : (if o.renderAll then Profile.renderingAll ⟨filtered, skipped⟩ else ⟨filtered, skipped⟩) =
      (⟨filtered, skipped⟩ : Profile) := by
    split
    · next ha => rw [show skipped = [] from h.rendered ha]; rfl
    · rfl
  have hlistening : (listening && !o.noListener) = listening := by
    cases hn : o.noListener with
    | false => exact Bool.and_true _
    | true => rw [show listening = false from h.unheard hn]; rfl
  have hpath : o.output.or path = path := by
    cases hp : o.output with
    | none => rfl
    | some _ => exact (h.path _ hp).symm
  have hformat : o.format.getD format = format := by
    cases hf : o.format with
    | none => rfl
    | some _ => exact (h.format _ hf).symm
  have hsession : (if o.enable.isEmpty then ⟨o.keyword.or keyword, categories, listening⟩
      else ⟨none, o.enable, listening⟩) = (⟨keyword, categories, listening⟩ : Settings.Session) := by
    split
    · next he =>
      cases hk : o.keyword with
      | none => rfl
      | some text => rw [show keyword = some text from h.keyword (List.isEmpty_iff.1 he) text hk]; rfl
    · next he =>
      obtain ⟨hk, hc⟩ := h.categories (mt List.isEmpty_iff.2 he)
      rw [show keyword = none from hk, show categories = o.enable from hc]
  unfold apply
  dsimp only
  rw [hprofile, hpath, hformat, hsession]
  dsimp only
  rw [hlistening]

/-! ## Precedence -/

/-- Options go before settings. The categories on the command line decide the keyword if there are any, also
how it fails, whatever keywords there are; if there are none the keyword on the command line does, whatever
categories there are; and if there is none either, the keyword is that of the settings. Filtered categories,
events and all that the options say nothing about stay, what is left out of records stays or is nothing at
all, a listener may go but none comes, and options count once. -/
theorem options_take_precedence (o : Options) (s : Settings) (r : Registry) :
    let applied := o.apply s
    (o.enable ≠ [] →
      applied.session.resolve r = ((r.select o.enable).map some).mapError .categories) ∧
    (o.enable = [] → ∀ text, o.keyword = some text →
      applied.session.resolve r = ((Keyword.parse text).map some).mapError .text) ∧
    (o.enable = [] → o.keyword = none → applied.session.resolve r = s.session.resolve r) ∧
    applied.profile.filtered = s.profile.filtered ∧ applied.events = s.events ∧ o.Leaves s applied ∧
    applied.profile.skipped = (if o.renderAll then [] else s.profile.skipped) ∧
    (applied.session.listening = true → s.session.listening = true) ∧ o.Met applied ∧
    o.apply applied = applied := by
  intro applied
  have hmet : o.Met applied := o.met_apply s
  have hleaves : o.Leaves s applied := o.leaves_apply s
  refine ⟨fun he => ?_, fun he text hk => ?_, fun he hk => ?_, hleaves.filtered, hleaves.events, hleaves, ?_, ?_,
    hmet, hmet.apply_eq⟩
  · obtain ⟨hkeyword, hcategories⟩ := hmet.categories he
    rw [Settings.Session.resolve_of_categories hkeyword (hcategories ▸ he), hcategories]
  · exact Settings.Session.resolve_of_text (hmet.keyword he text hk)
  · exact Settings.Session.resolve_congr (hleaves.keyword he hk) (hleaves.categories he)
  · split
    · next ha => exact hmet.rendered ha
    · next ha => exact hleaves.skipped (eq_false_of_ne_true ha)
  · intro hl
    cases hn : o.noListener with
    | false => rwa [← hleaves.listening hn]
    | true => rw [hmet.unheard hn] at hl; cases hl

/-- Two keywords that are none beside categories, a keyword beside an unknown category, and an unknown category
by itself. -/
theorem options_take_precedence_malformed :
    let r : Registry := .showing ["cc", "gpu"] 0
    let s : Settings := { session := { keyword := some "0xZZ", categories := ["nope"] } }
    let t : Settings := { session := { categories := ["nope"] } }
    let named : Options := { keyword := some "", enable := ["gpu"], noListener := true, renderAll := true }
    let given : Options := { keyword := some "0x1_0" }
    let silent : Options := { output := some "events.txt" }
    (named.enable ≠ [] ∧ (named.apply s).session.resolve r = .ok (some 0x8000000000000002#64)) ∧
    (given.enable = [] ∧ given.keyword = some "0x1_0" ∧ (given.apply t).session.resolve r = .ok (some 16#64)) ∧
    (silent.enable = [] ∧ silent.keyword = none ∧
      (silent.apply t).session.resolve r = .error (.categories (.unknownCategory "nope"))) ∧
    (named.apply s).profile.skipped = [] ∧ named.apply (named.apply s) = named.apply s := by
  intro r s t named given silent
  have hnamed : named.enable ≠ [] := List.cons_ne_nil _ _
  obtain ⟨hcategories, -, -, -, -, -, hskipped, -, -, hagain⟩ := options_take_precedence named s r
  obtain ⟨-, htext, -⟩ := options_take_precedence given t r
  obtain ⟨-, -, hsettings, -⟩ := options_take_precedence silent t r
  refine ⟨⟨hnamed, (hcategories hnamed).trans (by decide)⟩, ⟨rfl, rfl, (htext rfl _ rfl).trans (by decide)⟩,
    ⟨rfl, rfl, (hsettings rfl rfl).trans (by decide)⟩, hskipped, hagain⟩

end Options

end CommandLine

end TraceExport
