/-!
# Built-in rules

The rules that are there before any list is read. The critical ones come first and hold whatever
the lists say; the baseline is a broader list of the same kind. The user's file of overrides begins
as `overrideTemplate`.
-/

namespace AdFilter.BuiltIn

/-- Domains that are blocked ahead of all other rules. -/
def criticalDomains : List (List Char) := [
  "googleads.g.doubleclick.net".toList,
  "doubleclick.net".toList,
  "googlesyndication.com".toList,
  "googleadservices.com".toList,
  "google-analytics.com".toList,
  "googletagmanager.com".toList,
  "googletagservices.com".toList,
  "taboola.com".toList,
  "vidstat.taboola.com".toList,
  "outbrain.com".toList,
  "videoexternalapi.outbrain.com".toList,
  "widgets.outbrain.com".toList,
  "amplify.outbrain.com".toList,
  "facebook.com".toList,
  "amazon-adsystem.com".toList,
  "adsystem.amazon.com".toList,
  "connect.facebook.net".toList,
  "scorecardresearch.com".toList,
  "quantserve.com".toList,
  "revcontent.com".toList,
  "mgid.com".toList]

/-- Texts whose presence in an address blocks it, ahead of all rules but the critical domains. -/
def criticalMarkers : List (List Char) := [
  "block-data".toList,
  "blocked-data".toList,
  "/aclk?".toList,
  "/pagead/".toList,
  "/ads/".toList,
  "/ad/".toList,
  "advertisement".toList,
  "doubleclick".toList,
  "googlesyndication".toList,
  "gclid=".toList,
  "utm_source=adwords".toList,
  "utm_medium=cpc".toList]

/-- Patterns that are loaded with the critical domains. -/
def criticalPatterns : List (List Char) := [
  ".*doubleclick.*".toList,
  ".*googlesyndication.*".toList,
  ".*googleadservices.*".toList,
  ".*/aclk\\?.*".toList,
  ".*gclid=.*".toList,
  ".*/ads/.*".toList,
  ".*/ad/.*".toList,
  ".*block-data.*".toList,
  ".*blocked-data.*".toList,
  ".*taboola.*".toList,
  ".*outbrain.*".toList]

/-- Domains that are loaded after the user's overrides. -/
def baselineDomains : List (List Char) := [
  "doubleclick.net".toList,
  "googleadservices.com".toList,
  "googlesyndication.com".toList,
  "googletagmanager.com".toList,
  "google-analytics.com".toList,
  "googletagservices.com".toList,
  "adsystem.amazon.com".toList,
  "amazon-adsystem.com".toList,
  "connect.facebook.net".toList,
  "facebook.net".toList,
  "ads.twitter.com".toList,
  "analytics.twitter.com".toList,
  "msads.net".toList,
  "outbrain.com".toList,
  "taboola.com".toList,
  "revcontent.com".toList,
  "mgid.com".toList,
  "scorecardresearch.com".toList,
  "quantserve.com".toList,
  "chartbeat.com".toList,
  "addthis.com".toList,
  "sharethis.com".toList,
  "sharethrough.com".toList]

/-- Patterns that are loaded after the user's overrides. -/
def baselinePatterns : List (List Char) := [
  ".*/ads/.*".toList,
  ".*/ad/.*".toList,
  ".*/advertisement/.*".toList,
  ".*/banner/.*".toList,
  ".*/popup/.*".toList,
  ".*/tracking/.*".toList,
  ".*analytics.*".toList,
  ".*doubleclick.*".toList,
  ".*googlesyndication.*".toList,
  ".*googleadservices.*".toList,
  ".*/ad\\?.*".toList,
  ".*/ads\\?.*".toList,
  ".*/advert\\?.*".toList,
  ".*/track\\?.*".toList,
  ".*/pixel\\?.*".toList]

/-- The lines of the file of overrides before the user changes it. -/
def overrideLines : List (List Char) := [
  "# ad-sentry local blocklist (hosts-file syntax)".toList,
  "# One entry per line: \"0.0.0.0 domain.tld\" or just \"domain.tld\".".toList,
  "# Subdomains of every entry are blocked as well.".toList,
  "".toList,
  "# Google Ads & Analytics".toList,
  "0.0.0.0 googleadservices.com".toList,
  "0.0.0.0 googlesyndication.com".toList,
  "0.0.0.0 doubleclick.net".toList,
  "0.0.0.0 google-analytics.com".toList,
  "0.0.0.0 googletagmanager.com".toList,
  "0.0.0.0 googletagservices.com".toList,
  "".toList,
  "# Content recommendation networks".toList,
  "0.0.0.0 taboola.com".toList,
  "0.0.0.0 outbrain.com".toList,
  "".toList,
  "# Facebook/Meta tracking".toList,
  "0.0.0.0 connect.facebook.net".toList,
  "0.0.0.0 pixel.facebook.com".toList,
  "".toList,
  "# Amazon Ads".toList,
  "0.0.0.0 amazon-adsystem.com".toList,
  "0.0.0.0 adsystem.amazon.com".toList,
  "".toList,
  "# Analytics & tracking".toList,
  "0.0.0.0 scorecardresearch.com".toList,
  "0.0.0.0 quantserve.com".toList,
  "0.0.0.0 chartbeat.com".toList,
  "0.0.0.0 hotjar.com".toList,
  "0.0.0.0 crazyegg.com".toList,
  "0.0.0.0 mouseflow.com".toList,
  "".toList,
  "# Social widgets".toList,
  "0.0.0.0 addthis.com".toList,
  "0.0.0.0 sharethis.com".toList,
  "0.0.0.0 sharethrough.com".toList,
  "".toList,
  "# Add your custom domains below:".toList]

/-- What the file of overrides holds before the user changes it. -/
def overrideTemplate : List Char := overrideLines.flatMap (· ++ ['\n'])

/-- Words in an address by which a new window is taken for an intrusive one. -/
def popupIndicators : List (List Char) := [
  "popup".toList,
  "pop-up".toList,
  "popunder".toList,
  "overlay".toList,
  "modal".toList,
  "advertisement".toList,
  "ads".toList,
  "banner".toList,
  "promo".toList,
  "offer".toList,
  "survey".toList,
  "feedback".toList,
  "newsletter".toList,
  "subscribe".toList]

end AdFilter.BuiltIn
