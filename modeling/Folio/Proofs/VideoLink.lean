import Folio.Proofs.BareLink
import Folio.Proofs.Container
import Folio.Proofs.Document
import Folio.Proofs.Encoding
import Folio.Proofs.Markdown.Heading
import Folio.Proofs.PageValue
import Folio.Proofs.Region
import Folio.Proofs.Register
import Folio.Proofs.VideoLine

/-!
# Pages of bare video links

A source that is a bare link to a video becomes a page that embeds a video. On its way the id of the
video is cut out of the link, stands as the last word of a heading, and is taken out of that heading
again. What arrives is not always the id. The rule of the site takes word characters only, so the
key ends before the first hyphen of the id, and a key between two underscores is emphasized in the
heading. Every other key arrives as it is.
-/

namespace Folio

/-! ## Pages with one region -/

/-- A page without an end mark stands alone if no box is the container of the main region. -/
theorem wrap_routeRegions_of_noEnd {html : Text} (noEnd : Text.hasPart asideEnd html = false)
    {boxes : Table} (alone : boxes.find? (Registers.containerName mainRegion) = none) :
    (routeRegions html).wrap boxes = html := by
  rw [routeRegions_of_itemFree (AsideSpan.itemFree_of_noEnd noEnd), Registers.wrap,
    List.flatMap_singleton, Registers.wrapEntry_of_alone alone]

/-! ## The id of a video -/

/-- Whether a character may stand in the id of a video. -/
def isVideoChar (c : Char) : Bool :=
  c.isAlphanum || c == '_' || c == '-'

/-- The part of the id of a video before its first hyphen. -/
def videoKey (id : Text) : Text :=
  id.takeWhile (· != '-')

/-- An id is its own key if there is no hyphen in it. -/
theorem videoKey_eq_self_iff {id : Text} : videoKey id = id ↔ '-' ∉ id := by
  rw [videoKey, List.takeWhile_eq_self_iff]
  constructor
  · intro noHyphen isIn
    exact absurd (noHyphen '-' isIn) (by decide)
  · intro absent c isIn
    exact bne_iff_ne.2 fun same => absent (same ▸ isIn)

theorem isVideoChar_cases {c : Char} (inAlphabet : isVideoChar c = true) :
    Markdown.isKeyChar c = true ∨ c = '-' := by
  rcases Bool.or_eq_true_iff.1 inAlphabet with inKey | isHyphen
  · exact .inl inKey
  · exact .inr (beq_iff_eq.1 isHyphen)

/-- The rules of the video site read the key of an id. -/
theorem takeWhile_isWordChar {id : Text} (inAlphabet : ∀ c ∈ id, isVideoChar c = true) :
    id.takeWhile Unicode.isWordChar = videoKey id := by
  induction id with
  | nil => rfl
  | cons c id inductionHypothesis =>
    obtain ⟨first, inAlphabet⟩ := List.forall_mem_cons.1 inAlphabet
    rw [videoKey, List.takeWhile_cons, List.takeWhile_cons, inductionHypothesis inAlphabet]
    rcases isVideoChar_cases first with inKey | rfl
    · have notHyphen : (c != '-') = true := bne_iff_ne.2 (Markdown.ne_of_isKeyChar inKey rfl)
      rw [Markdown.isWordChar_of_isKeyChar inKey, notHyphen]
      rfl
    · rfl

theorem isKeyChar_of_mem_videoKey {id : Text} (inAlphabet : ∀ c ∈ id, isVideoChar c = true) :
    ∀ c ∈ videoKey id, Markdown.isKeyChar c = true := by
  intro c isIn
  rcases isVideoChar_cases (inAlphabet c ((List.takeWhile_sublist _).subset isIn)) with inKey | rfl
  · exact inKey
  · exact absurd (List.mem_takeWhile_imp isIn) (by decide)

theorem isBlank_of_isVideoChar {c : Char} (inAlphabet : isVideoChar c = true) :
    Unicode.isBlank c = false := by
  rcases isVideoChar_cases inAlphabet with inKey | rfl
  · exact Markdown.isBlank_of_isKeyChar inKey
  · rfl

/-! ## From the link to the heading -/

/-- The built-in rules make a heading of a link to a video. -/
theorem firstExpansion?_video {site id : Text} (isSite : site ∈ videoSites)
    (inAlphabet : ∀ c ∈ id, isVideoChar c = true) (hasKey : videoKey id ≠ []) :
    firstExpansion? LinkRule.builtin (site ++ id) =
      some ("### @".toList ++ "youtube".toList ++ ' ' :: videoKey id) := by
  have ran : Text.run Unicode.isWordChar id = (videoKey id, id.dropWhile Unicode.isWordChar) :=
    congrArg (·, id.dropWhile Unicode.isWordChar) (takeWhile_isWordChar inAlphabet)
  obtain ⟨split, all, maximal⟩ := Text.run_eq_iff.1 ran
  have isVideo := IsVideo.youtube isSite ⟨hasKey, all, maximal⟩
  rw [← split] at isVideo
  exact firstExpansion?_builtin_eq_some_iff.2 isVideo

theorem normalizeLinks_video {site id : Text} (isSite : site ∈ videoSites)
    (inAlphabet : ∀ c ∈ id, isVideoChar c = true) (hasKey : videoKey id ≠ []) :
    normalizeLinks LinkRule.builtin ("https://".toList ++ (site ++ id)) =
      "### @".toList ++ "youtube".toList ++ ' ' :: videoKey id := by
  have ofSite : site ≠ [] ∧ ∀ c ∈ site, Unicode.isBlank c = false := by
    simp only [videoSites, List.mem_cons, List.not_mem_nil, or_false] at isSite
    rcases isSite with rfl | rfl
    · exact ⟨by simp, by decide⟩
    · exact ⟨by simp, by decide⟩
  obtain ⟨siteNonempty, siteVisible⟩ := ofSite
  have visible : ∀ c ∈ site ++ id, Unicode.isBlank c = false := by
    rw [List.forall_mem_append]
    exact ⟨siteVisible, fun c isIn => isBlank_of_isVideoChar (inAlphabet c isIn)⟩
  exact normalizeLinks_https (List.append_ne_nil_of_left_ne_nil siteNonempty id) visible
    (firstExpansion?_video isSite inAlphabet hasKey)

/-! ## Headings of a name and a key -/

/-- A key is written in running text as it is. -/
theorem Markdown.Html.body_key {key : Text} (inKey : ∀ c ∈ key, isKeyChar c = true) :
    body key = key := by
  induction key with
  | nil => rfl
  | cons c key inductionHypothesis =>
    obtain ⟨first, inKey⟩ := List.forall_mem_cons.1 inKey
    have same : bodyChar c = [c] := by
      unfold bodyChar
      split
      · exact absurd rfl (ne_of_isKeyChar first rfl)
      · exact absurd rfl (ne_of_isKeyChar first rfl)
      · exact absurd rfl (ne_of_isKeyChar first rfl)
      · rfl
    rw [body, List.flatMap_cons, same, ← body, inductionHypothesis inKey]
    rfl

/-- A key is requoted as it is. -/
theorem Entity.requote_key {key : Text} (inKey : ∀ c ∈ key, Markdown.isKeyChar c = true) :
    requote key = key := by
  apply requote_of_plain
  intro c isIn
  have differs {d : Char} (outside : Markdown.isKeyChar d = false) : c ≠ d :=
    Markdown.ne_of_isKeyChar (inKey c isIn) outside
  constructor
  · exact differs rfl
  · simp only [isMarkup, Bool.or_eq_false_iff, beq_eq_false_iff_ne]
    exact ⟨⟨⟨differs rfl, differs rfl⟩, differs rfl⟩, differs rfl⟩

namespace Command

variable {name key : Text}

/-- A heading of a name and a key that is not emphasized is converted to a heading with the same
text. -/
theorem convert_heading (inName : ∀ c ∈ name, c.isAlphanum = true) (nonempty : key ≠ [])
    (inKey : ∀ c ∈ key, Markdown.isKeyChar c = true) (notEmphasized : ¬ Markdown.IsEmphasized key)
    (converter : Markdown.Converter) :
    converter.convert ("### @".toList ++ name ++ ' ' :: key) =
      written '3' '@' (name ++ ' ' :: key) ++ ['\n'] := by
  have nameInKey : ∀ c ∈ name, Markdown.isKeyChar c = true :=
    fun c isIn => Markdown.isKeyChar_of_isAlphanum (inName c isIn)
  have noSigns : ∀ c ∈ '@' :: name, Markdown.isSign c = false := by
    rw [List.forall_mem_cons]
    exact ⟨rfl, fun c isIn => (Markdown.isAlphanum_spec (inName c isIn)).1⟩
  have oneLine : '\n' ∉ '@' :: name ∧ '\r' ∉ '@' :: name := by
    have noNewline : '\n' ∉ name := Markdown.not_mem_of_isKeyChar nameInKey rfl
    have noReturn : '\r' ∉ name := Markdown.not_mem_of_isKeyChar nameInKey rfl
    simp [noNewline, noReturn]
  have isHeading : "### @".toList ++ name ++ ' ' :: key =
      List.replicate 3 '#' ++ ' ' :: ('@' :: name ++ ' ' :: key) := by
    rfl
  have text : Markdown.Html.body ('@' :: name ++ ' ' :: key) = '@' :: name ++ ' ' :: key := by
    rw [Markdown.Html.body, List.flatMap_append, List.flatMap_cons, List.flatMap_cons,
      ← Markdown.Html.body, ← Markdown.Html.body, Markdown.Html.body_key nameInKey,
      Markdown.Html.body_key inKey]
    rfl
  have level : Text.ofNat 3 = ['3'] := by decide
  rw [isHeading, converter.convert_heading (by simp) (by simp) List.head?_cons rfl noSigns oneLine
    nonempty inKey notEmphasized, text]
  simp [written, level]

/-- Such a heading is read as the command of the name and the key. -/
theorem readsAs_heading (nameNonempty : name ≠ []) (inName : ∀ c ∈ name, c.isAlphanum = true)
    (inKey : ∀ c ∈ key, Markdown.isKeyChar c = true) :
    Text.ReadsAs command? (written '3' '@' (name ++ ' ' :: key)) ⟨.expand, name, key⟩ := by
  have nameInKey : ∀ c ∈ name, Markdown.isKeyChar c = true :=
    fun c isIn => Markdown.isKeyChar_of_isAlphanum (inName c isIn)
  have noBlank : ∀ c ∈ name, Unicode.isBlank c = false :=
    fun c isIn => Markdown.isBlank_of_isKeyChar (nameInKey c isIn)
  have trimmed : Text.trimStart key = key := by
    apply Text.trimStart_of_head
    intro c head
    exact Markdown.isBlank_of_isKeyChar (inKey c (List.mem_of_mem_head? head))
  have absent {d : Char} (outside : Markdown.isKeyChar d = false) (notSpace : d ≠ ' ') :
      d ∉ name ++ ' ' :: key := by
    simp only [List.mem_append, List.mem_cons, not_or]
    exact ⟨Markdown.not_mem_of_isKeyChar nameInKey outside, notSpace,
      Markdown.not_mem_of_isKeyChar inKey outside⟩
  rw [← ofText_append .expand noBlank trimmed]
  apply readsAs_written rfl rfl
  · exact absent rfl (by decide)
  · exact absent rfl (by decide)
  · intro c head
    cases name with
    | nil => exact absurd rfl nameNonempty
    | cons d name =>
      obtain rfl : d = c := Option.some.inj head
      exact noBlank d List.mem_cons_self

/-- A page that is such a heading comes to the body of the macro of the name. -/
theorem carryOutCommands_heading (nameNonempty : name ≠ [])
    (inName : ∀ c ∈ name, c.isAlphanum = true) (inKey : ∀ c ∈ key, Markdown.isKeyChar c = true)
    {tables : Tables} {body : Text} (noSetting : tables.settings.find? name = none)
    (isMacro : tables.macros.find? name = some body) :
    carryOutCommands tables (written '3' '@' (name ++ ' ' :: key) ++ ['\n']) =
      ⟨(⟨.expand, name, key⟩ : Command).expansion body ++ ['\n'], [], []⟩ := by
  have free : Text.ItemFree command? ['\n'] :=
    (inert_command?_of_not_mem (by simp)).itemFree
  have named : (⟨.expand, name, key⟩ : Command).name = name :=
    Entity.requote_key fun c isIn => Markdown.isKeyChar_of_isAlphanum (inName c isIn)
  rw [carryOutCommands_append_of_readsAs (readsAs_heading nameNonempty inName inKey) free, respond]
  simp only [respondExpand, named, noSetting, isMacro]
  rfl

end Command

/-! ## From the heading to the page -/

/-- The frame of a video with an address. -/
def embeddedFrame (address : Text) : Text :=
  "<div class=\"embed video\"><iframe src=\"".toList ++ address ++
    "\" frameborder=\"0\" allowfullscreen></iframe></div>".toList

/-- The markup that embeds the video of an id. -/
def embeddedVideo (id : Text) : Text :=
  embeddedFrame ("https://www.youtube-nocookie.com/embed/".toList ++ id)

/-- The body of a video macro comes to the frame of its address with the argument after it. -/
theorem expansion_videoFrame {address : String} (noSign : '@' ∉ address.toList)
    (command : Command) :
    command.expansion (Defaults.videoFrame address) =
      embeddedFrame (address.toList ++ command.value) := by
  have split : Defaults.videoFrame address =
      "<div class=\"embed video\"><iframe src=\"".toList ++ address.toList ++
        '@' :: ("ARGS".toList ++ ['@']) ++
          "\" frameborder=\"0\" allowfullscreen></iframe></div>".toList := by
    unfold Defaults.videoFrame
    simp
  have beforeNoSign :
      '@' ∉ "<div class=\"embed video\"><iframe src=\"".toList ++ address.toList := by
    rw [List.mem_append, not_or]
    exact ⟨by simp, noSign⟩
  have nonempty : "ARGS".toList ≠ [] := by simp
  have word : ∀ c ∈ "ARGS".toList, Unicode.isWordChar c = true := by decide
  have afterNoSign : '@' ∉ "\" frameborder=\"0\" allowfullscreen></iframe></div>".toList := by simp
  have argument : Placeholder.value
      (.ofList [("ARGS".toList, command.value), ("CMD".toList, command.name)])
      ["ARGS".toList, "CMD".toList] "ARGS".toList = command.value := by
    rfl
  rw [Command.expansion, split,
    Placeholder.fill_append_placeholder_append beforeNoSign nonempty word afterNoSign, argument]
  unfold embeddedFrame
  simp

/-- No mark of an aside is in a page that embeds a video. -/
theorem hasPart_asideEnd_embeddedVideo {key : Text}
    (inKey : ∀ c ∈ key, Markdown.isKeyChar c = true) :
    Text.hasPart asideEnd (embeddedVideo key ++ ['\n']) = false := by
  have inMark : '!' ∈ asideEnd := by
    rw [AsideSpan.asideEnd_eq]
    simp
  apply Text.hasPart_eq_false_of_not_mem inMark
  have absent : '!' ∉ key := Markdown.not_mem_of_isKeyChar inKey rfl
  unfold embeddedVideo embeddedFrame
  simp [absent]

/-- A bare link to a video becomes a page that embeds the video of the key of its id, if the key is
neither empty nor emphasized. There are no notices but those of the menu. -/
theorem Renderer.render_video_link {site id : Text} (isSite : site ∈ videoSites)
    (inAlphabet : ∀ c ∈ id, isVideoChar c = true) (hasKey : videoKey id ≠ [])
    (notEmphasized : ¬ Markdown.IsEmphasized (videoKey id)) (theme : Theme)
    (given : Option Dictionary) :
    let link := "https://".toList ++ (site ++ id)
    let page := Renderer.usual.render "@body@".toList link theme given
    page.html = embeddedVideo (videoKey id) ++ ['\n'] ∧
      page.notices = (renderMenu Renderer.usual.defaults.tables.menus theme.menu).notices := by
  intro link page
  have inKey := isKeyChar_of_mem_videoKey inAlphabet
  have inName : ∀ c ∈ "youtube".toList, c.isAlphanum = true := by decide
  have noSetting : Renderer.usual.defaults.tables.settings.find? "youtube".toList = none := by
    decide +kernel
  have isMacro : Renderer.usual.defaults.tables.macros.find? "youtube".toList =
      some (Defaults.videoFrame "https://www.youtube-nocookie.com/embed/") := by
    decide +kernel
  have alone : Renderer.usual.defaults.tables.boxes.find?
      (Registers.containerName mainRegion) = none := by
    decide +kernel
  have heading : Renderer.usual.convert (normalizeLinks Renderer.usual.links link) =
        Command.written '3' '@' ("youtube".toList ++ ' ' :: videoKey id) ++ ['\n'] := by
    have links : Renderer.usual.links = LinkRule.builtin := rfl
    have convert : Renderer.usual.convert = Markdown.Converter.usual.convert := rfl
    rw [links, normalizeLinks_video isSite inAlphabet hasKey, convert,
      Command.convert_heading inName hasKey inKey notEmphasized]
  have embeds : (⟨.expand, "youtube".toList, videoKey id⟩ : Command).expansion
      (Defaults.videoFrame "https://www.youtube-nocookie.com/embed/") =
        embeddedVideo (videoKey id) := by
    rw [expansion_videoFrame (by simp), Command.value, Entity.requote_key inKey]
    rfl
  have outcome := Command.carryOutCommands_heading (by simp) inName inKey noSetting isMacro
  rw [← heading, embeds] at outcome
  obtain ⟨html, notices⟩ := Renderer.usual.render_body link theme given
  rw [outcome] at html notices
  constructor
  · rw [html]
    exact wrap_routeRegions_of_noEnd (hasPart_asideEnd_embeddedVideo inKey) alone
  · exact notices

/-- An underscore inside an id does not change it. -/
theorem Renderer.render_video_link_of_underscore :
    let site : Text := "youtu.be/".toList
    let id : Text := "dQw4_w9WgXcQ".toList
    let link := "https://".toList ++ (site ++ id)
    let page := Renderer.usual.render "@body@".toList link .plain none
    (site ∈ videoSites ∧ (∀ c ∈ id, isVideoChar c = true) ∧ videoKey id ≠ [] ∧
      ¬ Markdown.IsEmphasized (videoKey id)) ∧
    page.html = embeddedVideo id ++ ['\n'] ∧ page.notices = [] := by
  intro site id link page
  have isSite : site ∈ videoSites := List.mem_cons_self
  have inAlphabet : ∀ c ∈ id, isVideoChar c = true := by decide
  have whole : videoKey id = id := videoKey_eq_self_iff.2 (by decide)
  have hasKey : videoKey id ≠ [] := by
    rw [whole]
    decide
  have notEmphasized : ¬ Markdown.IsEmphasized (videoKey id) := by
    rw [whole]
    decide
  obtain ⟨html, notices⟩ :=
    Renderer.render_video_link isSite inAlphabet hasKey notEmphasized .plain none
  rw [whole] at html
  exact ⟨⟨isSite, inAlphabet, hasKey, notEmphasized⟩, html, notices⟩

/-- Two ids that do not arrive: one is cut at its hyphen, so that another video is embedded, and one
is emphasized between its underscores, so that the tags of the emphasis are embedded with it. -/
theorem Renderer.render_video_link_of_lost_id :
    let page (id : Text) :=
      Renderer.usual.render "@body@".toList ("https://youtu.be/".toList ++ id) .plain none
    let hyphenated : Text := "dQw4-9WgXcQ".toList
    let underscored : Text := "_b8nTl3uO4_".toList
    (page hyphenated).html = embeddedVideo "dQw4".toList ++ ['\n'] ∧
    (page underscored).html = embeddedVideo "&lt;em&gt;b8nTl3uO4&lt;/em&gt;".toList ++ ['\n'] ∧
    ∀ id ∈ [hyphenated, underscored],
      (∀ c ∈ id, isVideoChar c = true) ∧
      Text.hasPart ("https://www.youtube-nocookie.com/embed/".toList ++ id ++ ['"'])
        (page id).html = false := by
  decide +kernel

end Folio
