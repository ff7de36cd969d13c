/-!
# Which links a page may follow

A *web link* is one a browser opens as a page or image of the web: it starts with `http://`
or `https://` in any ASCII case, or it is a path on the same site, starting with one `/` but
not two (`//host` would leave the site). A link *target* may also be an anchor on the page
(`#...`) or a mail address (`mailto:` in any case). Everything else, `javascript:` first of
all, is refused.
-/

namespace StudyPlanner.Render

/-- Whether the text starts with the given lower-case prefix, ignoring ASCII case. -/
def startsWithFolded (s pfx : String) : Bool :=
  (s.toList.map Char.toLower).take pfx.length == pfx.toList

/-- A link to a page or image on the web or on this site. -/
def isWebLink (link : String) : Bool :=
  startsWithFolded link "https://" || startsWithFolded link "http://" ||
    (link.startsWith "/" && !link.startsWith "//")

/-- A link a rendered card may keep: a web link, an anchor or a mail address. -/
def isLinkTarget (link : String) : Bool :=
  isWebLink link || link.startsWith "#" || startsWithFolded link "mailto:"

end StudyPlanner.Render
