import MacroScribe.Proofs.Condition.Fixed
import MacroScribe.Proofs.Condition.Order

/-!
# MacroScribe.Proofs.Condition.Sources

Which keys about an image are written beside its source (`imageKeys_follow_source_iff`). Each of
these keys goes with one source, and the two rules about images take it away for every other source
that they know. A condition without a source has an image of its own; image search takes the keys
away then as well, but text recognition takes nothing away for want of a source to look up.
-/

namespace MacroScribe.Condition

open Outcome

/-- The keys about an image, each with the source that it goes with. -/
def imageKeys : List (String × String) :=
  [("ImagePath", "File"), ("ImageNamedClipboardName", "NamedClipboard"),
   ("ImageNamedClipboardRedundandDisplayName", "NamedClipboard")]

/-- The sources of images. -/
def imageSources : List String :=
  ["File", "NamedClipboard", "Screen", "SystemClipboard", "TriggerClipboard", "Icon", "Image"]

/-- What is taken away for a source in a condition that looks at the screen. -/
def dropped (type : String) (source : Argument) : List String :=
  if type = "OCR" then ocrDropped source else imageDropped source

/-! ### What is taken away -/

/-- A key about images goes with its own source only. -/
theorem mem_dropped_iff : ∀ type ∈ screenTypes, ∀ s ∈ imageSources, ∀ f ∈ imageKeys,
    f.1 ∈ dropped type (.str s) ↔ s ≠ f.2 := by
  decide

theorem not_mem_ocrDropped_null : ∀ f ∈ imageKeys, f.1 ∉ dropped "OCR" .null := by
  decide

theorem mem_imageDropped_null : ∀ f ∈ imageKeys, f.1 ∈ dropped "ScreenImage" .null := by
  decide

/-- Nothing else happens to these keys. -/
theorem get?_settled_imageKey {type : String} (htype : type ∈ screenTypes) (c : Given)
    {f : String × String} (hf : f ∈ imageKeys) : ((ruleOf type).settled c).get? f.1 =
      if f.1 ∈ dropped type (c.value "ImageSource") then none else c.get? f.1 := by
  have hother : ∀ f ∈ imageKeys, f.1 ∉ ["DisplayMatches", "Fuzz"] ∧
      f.1 ∉ ["ScreenArea", "ImageScreenArea"] := by decide
  obtain ⟨hdefault, harea⟩ := hother f hf
  rcases List.mem_pair.mp htype with rfl | rfl
  · change (Fields.putAllNew (imageRule.supplied c) (Fields.eraseAll _ _)).get? f.1 = _
    have hnone : (imageRule.supplied c).get? f.1 = none := Fields.get?_eq_none.mpr hdefault
    rw [Fields.get?_putAllNew, hnone, Option.or_none, Fields.get?_eraseAll,
      withAreas_sameBut c f.1 harea]
    rfl
  · exact Fields.get?_eraseAll _ _ _

/-- A key about images is written if it is given and not taken away. -/
theorem imageKey_written_iff {c : Given} {type : String} {entries : List Entry}
    (hc : c.keys.Nodup) (htype : typeOf c = .ok type) (hscreen : type ∈ screenTypes)
    (h : toPlist (.obj c) = .ok (.dict entries)) {f : String × String} (hf : f ∈ imageKeys) :
    f.1 ∈ entries.map (·.1) ↔
      f.1 ∉ dropped type (c.value "ImageSource") ∧ (c.value f.1).isNull = false := by
  obtain ⟨type', fields, entries', htype', hfields, hentries, -, hkeys⟩ := ofFields_keys hc h
  obtain rfl := Except.ok.inj (htype.symm.trans htype')
  obtain rfl := Plist.dict.inj hentries
  obtain ⟨-, rfl⟩ := normal_eq_ok.mp hfields
  have hmouse : type ≠ "MouseButton" := by
    rintro rfl
    exact absurd hscreen (by decide)
  rw [hkeys, get?_settled_imageKey hscreen c hf]
  split
  · next hmem => simp [hmem]
  · next hmem =>
    rw [and_iff_right hmem, Fields.value]
    cases c.get? f.1 with
    | none => simp [Json.isNull]
    | some v => simp [hmouse]

/-- In an accepted condition that looks at the screen, with one of the sources or none, each key
about images is written only beside its own source, except that text recognition without a source
writes any of them that it is given. -/
theorem imageKeys_follow_source_iff {c : Given} {type : String} {entries : List Entry}
    (hc : c.keys.Nodup) (htype : typeOf c = .ok type) (hscreen : type ∈ screenTypes)
    (hsource : c.value "ImageSource" = .null ∨ ∃ s ∈ imageSources, c.value "ImageSource" = .str s)
    (h : toPlist (.obj c) = .ok (.dict entries)) :
    (∀ f ∈ imageKeys, f.1 ∈ entries.map (·.1) → c.value "ImageSource" = .str f.2) ↔
      ¬(type = "OCR" ∧ c.value "ImageSource" = .null ∧
        ∃ f ∈ imageKeys, (c.value f.1).isNull = false) := by
  have hwritten := @imageKey_written_iff c type entries hc htype hscreen h
  rcases hsource with hnull | ⟨s, hs, hsource⟩
  · rw [hnull] at hwritten ⊢
    rcases List.mem_pair.mp hscreen with rfl | rfl
    · refine iff_of_true (fun f hf hmem => ?_) (by simp)
      exact absurd (mem_imageDropped_null f hf) ((hwritten hf).mp hmem).1
    · constructor
      · rintro hall ⟨-, -, f, hf, hgiven⟩
        have hmem := (hwritten hf).mpr ⟨not_mem_ocrDropped_null f hf, hgiven⟩
        cases hall f hf hmem
      · intro hnone f hf hmem
        exact absurd ⟨rfl, rfl, f, hf, ((hwritten hf).mp hmem).2⟩ hnone
  · rw [hsource] at hwritten ⊢
    refine iff_of_true (fun f hf hmem => ?_) (by simp)
    have hkept := mt (mem_dropped_iff type hscreen s hs f hf).mpr ((hwritten hf).mp hmem).1
    exact congrArg Json.str (not_not.mp hkept)

/-- Text recognition with a file, and with some more fields about the source. -/
def fileRecognition (source : Given) : Given :=
  [("ConditionType", .str "OCR"), ("ImagePath", .str "/tmp/x.png")] ++ source

/-- Such a condition is written as it is given if its fields are sorted and nothing is taken away.
-/
theorem toPlist_fileRecognition (source : Given) {entries : List (List Entry)}
    (hsorted : (fileRecognition source).keys.Pairwise fun a b => inOrder a b)
    (hflags : ∀ f ∈ fileRecognition source, f.1 ∉ trailingFlags)
    (hnormal : normal "OCR" (fileRecognition source) = .ok (fileRecognition source))
    (hentries : (fileRecognition source).mapM (fun f => entry "OCR" f.1 f.2) = .ok entries) :
    toPlist (.obj (fileRecognition source)) = .ok (.dict entries.flatten) := by
  have htype : typeOf (fileRecognition source) = .ok "OCR" := rfl
  refine bind_eq_ok.mpr ⟨_, htype, bind_eq_ok.mpr ⟨_, hnormal, bind_eq_ok.mpr ⟨entries, ?_, rfl⟩⟩⟩
  rwa [conditionOrder_of_sorted hflags hsorted]

/-- Text recognition without a source writes a file that it is given. -/
theorem toPlist_strayFile :
    (fileRecognition []).keys.Nodup ∧
    (fileRecognition []).value "ImageSource" = .null ∧
    toPlist (.obj (fileRecognition [])) =
      .ok (.dict [("ConditionType", .compactText "OCR"),
        ("ImagePath", .compactText "/tmp/x.png")]) := by
  refine ⟨by decide, rfl, toPlist_fileRecognition [] ?_ ?_ rfl rfl⟩
  · decide +kernel
  · decide

/-- With a file as its source, text recognition writes the file, and no key of another source. -/
theorem imageKeys_follow_source_iff_fileRecognition :
    toPlist (.obj (fileRecognition [("ImageSource", .str "File")])) =
      .ok (.dict [("ConditionType", .compactText "OCR"), ("ImagePath", .compactText "/tmp/x.png"),
        ("ImageSource", .compactText "File")]) ∧
    ∀ f ∈ imageKeys, f.1 ∈ ["ConditionType", "ImagePath", "ImageSource"] →
      (fileRecognition [("ImageSource", .str "File")]).value "ImageSource" = .str f.2 := by
  have hvalue : toPlist (.obj (fileRecognition [("ImageSource", .str "File")])) =
      .ok (.dict [("ConditionType", .compactText "OCR"), ("ImagePath", .compactText "/tmp/x.png"),
        ("ImageSource", .compactText "File")]) :=
    toPlist_fileRecognition [("ImageSource", .str "File")] (by decide +kernel) (by decide) rfl rfl
  have hiff := imageKeys_follow_source_iff (by decide) rfl (by decide)
    (.inr ⟨"File", by decide, rfl⟩) hvalue
  refine ⟨hvalue, hiff.mpr ?_⟩
  rintro ⟨-, ⟨⟩, -⟩

end MacroScribe.Condition
