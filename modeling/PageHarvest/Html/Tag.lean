/-!
# Element names

`Tag` names the elements whose name means something to the construction of a document, and all
others by their spelling.  `ElementName` puts a tag into one of the three namespaces that markup
can reach.  The predicates below are the groups of elements that the construction rules speak of;
unless a doc comment says otherwise they hold of elements in the namespace of HTML only.
-/

namespace PageHarvest.Html

/-- The local name of an element, in lower case. -/
inductive Tag
  | a | address | annotationXml | applet | area | article | aside | b | base | basefont | bgsound
  | big | blockquote | body | br | button | caption | center | code | col | colgroup | dd | desc
  | details | dialog | dir | div | dl | dt | em | embed | fieldset | figcaption | figure | font
  | footer | foreignObject | form | frame | frameset | h1 | h2 | h3 | h4 | h5 | h6 | head | header
  | hgroup | hr | html | i | iframe | image | img | input | isindex | keygen | li | link | listing
  | main | malignmark | marquee | math | menu | «meta» | mglyph | mi | mn | mo | ms | mtext | nav
  | nobr | noembed | noframes | noscript | object | ol | optgroup | option | p | param | plaintext
  | pre | rb | rp | rt | rtc | ruby | s | script | search | «section» | select | small | source
  | span | strike | strong | style | sub | summary | sup | svg | table | tbody | td | template
  | textarea | tfoot | th | thead | title | tr | track | tt | u | ul | var | wbr | xmp
  | other (name : List Char)
  deriving DecidableEq, Repr, Inhabited

namespace Tag

/-- The spelling of every name that has a constructor of its own. -/
def spellings : List (String × Tag) :=
  [("a", .a), ("address", .address), ("annotation-xml", .annotationXml), ("applet", .applet),
   ("area", .area), ("article", .article), ("aside", .aside), ("b", .b), ("base", .base),
   ("basefont", .basefont), ("bgsound", .bgsound), ("big", .big), ("blockquote", .blockquote),
   ("body", .body), ("br", .br), ("button", .button), ("caption", .caption),
   ("center", .center), ("code", .code), ("col", .col), ("colgroup", .colgroup), ("dd", .dd),
   ("desc", .desc), ("details", .details), ("dialog", .dialog), ("dir", .dir), ("div", .div),
   ("dl", .dl), ("dt", .dt), ("em", .em), ("embed", .embed), ("fieldset", .fieldset),
   ("figcaption", .figcaption), ("figure", .figure), ("font", .font), ("footer", .footer),
   ("foreignobject", .foreignObject), ("form", .form), ("frame", .frame),
   ("frameset", .frameset), ("h1", .h1), ("h2", .h2), ("h3", .h3), ("h4", .h4), ("h5", .h5),
   ("h6", .h6), ("head", .head), ("header", .header), ("hgroup", .hgroup), ("hr", .hr),
   ("html", .html), ("i", .i), ("iframe", .iframe), ("image", .image), ("img", .img),
   ("input", .input), ("isindex", .isindex), ("keygen", .keygen), ("li", .li), ("link", .link),
   ("listing", .listing), ("main", .main), ("malignmark", .malignmark), ("marquee", .marquee),
   ("math", .math), ("menu", .menu), ("meta", .«meta»), ("mglyph", .mglyph), ("mi", .mi),
   ("mn", .mn), ("mo", .mo), ("ms", .ms), ("mtext", .mtext), ("nav", .nav), ("nobr", .nobr),
   ("noembed", .noembed), ("noframes", .noframes), ("noscript", .noscript), ("object", .object),
   ("ol", .ol), ("optgroup", .optgroup), ("option", .option), ("p", .p), ("param", .param),
   ("plaintext", .plaintext), ("pre", .pre), ("rb", .rb), ("rp", .rp), ("rt", .rt),
   ("rtc", .rtc), ("ruby", .ruby), ("s", .s), ("script", .script), ("search", .search),
   ("section", .«section»), ("select", .select), ("small", .small), ("source", .source),
   ("span", .span), ("strike", .strike), ("strong", .strong), ("style", .style), ("sub", .sub),
   ("summary", .summary), ("sup", .sup), ("svg", .svg), ("table", .table), ("tbody", .tbody),
   ("td", .td), ("template", .template), ("textarea", .textarea), ("tfoot", .tfoot),
   ("th", .th), ("thead", .thead), ("title", .title), ("tr", .tr), ("track", .track),
   ("tt", .tt), ("u", .u), ("ul", .ul), ("var", .var), ("wbr", .wbr), ("xmp", .xmp)]

/-- The tag with the given spelling, which is in lower case. -/
def ofName (name : List Char) : Tag :=
  match spellings.find? (fun entry => entry.1.toList == name) with
  | some entry => entry.2
  | none => .other name

/-- Elements whose contents are never shown to a reader. -/
def isHidden : Tag → Bool
  | .script | .style | .noscript | .template => true
  | _ => false

/-- Headings. -/
def isHeading : Tag → Bool
  | .h1 | .h2 | .h3 | .h4 | .h5 | .h6 => true
  | _ => false

/-- Elements that end the search for the start of a misnested element. -/
def isSpecial : Tag → Bool
  | .address | .applet | .area | .article | .aside | .base | .basefont | .bgsound | .blockquote
  | .body | .br | .button | .caption | .center | .col | .colgroup | .dd | .details | .dir | .div
  | .dl | .dt | .embed | .fieldset | .figcaption | .figure | .footer | .form | .frame
  | .frameset | .h1 | .h2 | .h3 | .h4 | .h5 | .h6 | .head | .header | .hgroup | .hr | .html
  | .iframe | .img | .input | .isindex | .li | .link | .listing | .main | .marquee | .menu
  | .«meta» | .nav | .noembed | .noframes | .noscript | .object | .ol | .p | .param | .plaintext
  | .pre | .script | .«section» | .select | .source | .style | .summary | .table | .tbody | .td
  | .template | .textarea | .tfoot | .th | .thead | .title | .tr | .track | .ul | .wbr | .xmp => true
  | _ => false

/-- Elements whose end tag may be left out in running text. -/
def endIsImplied : Tag → Bool
  | .dd | .dt | .li | .option | .optgroup | .p | .rb | .rp | .rt | .rtc => true
  | _ => false

/-- Elements whose end tag may be left out inside a template. -/
def endIsImpliedInTemplate : Tag → Bool
  | .dd | .dt | .li | .option | .optgroup | .p | .rb | .rp | .rt | .rtc | .caption | .colgroup
  | .tbody | .td | .tfoot | .th | .thead | .tr => true
  | _ => false

/-- Elements that close off what surrounds them for most end tags. -/
def boundsScope : Tag → Bool
  | .applet | .caption | .html | .table | .td | .th | .marquee | .object | .template => true
  | _ => false

/-- Elements that close off what surrounds them for the parts of a table. -/
def boundsTableScope : Tag → Bool
  | .html | .table | .template => true
  | _ => false

/-- Elements in which text is out of place and goes in front of the table. -/
def fostersText : Tag → Bool
  | .table | .tbody | .tfoot | .thead | .tr => true
  | _ => false

/-- The sections of a table. -/
def isTableSection : Tag → Bool
  | .tbody | .tfoot | .thead => true
  | _ => false

/-- The cells of a table. -/
def isCell : Tag → Bool
  | .td | .th => true
  | _ => false

/-- Elements that a start tag of HTML in foreign content leaves foreign content for. -/
def breaksOutOfForeign : Tag → Bool
  | .b | .big | .blockquote | .body | .br | .center | .code | .dd | .div | .dl | .dt | .em
  | .embed | .h1 | .h2 | .h3 | .h4 | .h5 | .h6 | .head | .hr | .i | .img | .li | .listing | .menu
  | .«meta» | .nobr | .ol | .p | .pre | .ruby | .s | .small | .span | .strong | .strike | .sub
  | .sup | .table | .tt | .u | .ul | .var => true
  | _ => false

end Tag

/-- The namespaces that markup can put an element into. -/
inductive Namespace
  | html | mathml | svg
  deriving DecidableEq, Repr, Inhabited

/-- The full name of an element. -/
structure ElementName where
  space : Namespace
  tag : Tag
  deriving DecidableEq, Repr, Inhabited

namespace ElementName

/-- The element of HTML with this tag. -/
def html (tag : Tag) : ElementName := ⟨.html, tag⟩

/-- The element is one of HTML and its tag satisfies `p`. -/
def isHtml (p : Tag → Bool) (e : ElementName) : Bool :=
  e.space == .html && p e.tag

/-- The elements of MathML that hold running text. -/
def holdsMathText (e : ElementName) : Bool :=
  e.space == .mathml && match e.tag with
    | .mi | .mo | .mn | .ms | .mtext => true
    | _ => false

/-- The elements of SVG that hold HTML. -/
def holdsHtml (e : ElementName) : Bool :=
  e.space == .svg && match e.tag with
    | .foreignObject | .desc | .title => true
    | _ => false

/-- Elements that close off what surrounds them. -/
def boundsScope (e : ElementName) : Bool :=
  e.isHtml Tag.boundsScope || e.holdsMathText || e.holdsHtml

/-- Elements that close off what surrounds them for a list item. -/
def boundsListItemScope (e : ElementName) : Bool :=
  e.boundsScope || e.isHtml fun t => t == .ol || t == .ul

/-- Elements that close off what surrounds them for a paragraph. -/
def boundsButtonScope (e : ElementName) : Bool :=
  e.boundsScope || e.isHtml (· == .button)

/-- Elements that close off what surrounds them for a selection list: all but its items. -/
def boundsSelectScope (e : ElementName) : Bool :=
  !e.isHtml fun t => t == .optgroup || t == .option

/-- Elements that close off what surrounds them for the parts of a table. -/
def boundsTableScope (e : ElementName) : Bool :=
  e.isHtml Tag.boundsTableScope

end ElementName

end PageHarvest.Html
