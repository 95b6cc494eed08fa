/-!
# Element names

The elements that are known without a configuration, and those that never have content. An `input`
is not among the former because it is rendered in a way of its own.
-/

set_option autoImplicit false

namespace HtmlTemplate.Html

def elements : List String :=
  ["a", "abbr", "address", "area", "article", "aside", "audio", "b", "base", "bdi", "bdo",
   "blockquote", "body", "br", "button", "canvas", "caption", "cite", "code", "col", "colgroup",
   "data", "datalist", "dd", "del", "details", "dfn", "dialog", "div", "dl", "dt", "em", "embed",
   "fieldset", "figcaption", "figure", "footer", "form", "h1", "h2", "h3", "h4", "h5", "h6",
   "head", "header", "hgroup", "hr", "html", "i", "iframe", "img", "ins", "kbd", "label",
   "legend", "li", "link", "main", "map", "mark", "menu", "meta", "meter", "nav", "noscript",
   "object", "ol", "optgroup", "option", "output", "p", "picture", "pre", "progress", "q", "rp",
   "rt", "ruby", "s", "samp", "script", "search", "section", "select", "slot", "small", "source",
   "span", "strong", "style", "sub", "summary", "sup", "table", "tbody", "td", "template",
   "textarea", "tfoot", "th", "thead", "time", "title", "tr", "track", "u", "ul", "var", "video",
   "wbr"]

def voidElements : List String :=
  ["area", "base", "br", "col", "embed", "hr", "img", "input", "link", "meta", "source", "track",
   "wbr"]

end HtmlTemplate.Html
