/-!
# Sample documents

Small capabilities documents of every kind that services publish, and a report of a service that
cannot answer. They are written without an XML declaration; `withDeclaration` puts one in front.
-/

namespace MapServices.Samples

/-- A newer map service: a group of layers, one of which overrides what it inherits. -/
def wms130 : String :=
  "\n".intercalate [
    "<WMS_Capabilities version=\"1.3.0\" xmlns=\"http://www.opengis.net/wms\" " ++
      "xmlns:xlink=\"http://www.w3.org/1999/xlink\">",
    "  <Service>",
    "    <Name>WMS</Name>",
    "    <Title>Topographic maps</Title>",
    "  </Service>",
    "  <Capability>",
    "    <Request>",
    "      <GetCapabilities>",
    "        <Format>text/xml</Format>",
    "      </GetCapabilities>",
    "      <GetMap>",
    "        <Format>image/png</Format>",
    "        <Format>image/jpeg</Format>",
    "      </GetMap>",
    "      <GetFeatureInfo>",
    "        <Format>text/html</Format>",
    "        <Format>application/vnd.ogc.gml</Format>",
    "      </GetFeatureInfo>",
    "    </Request>",
    "    <Layer>",
    "      <Title>Topographic maps</Title>",
    "      <CRS>EPSG:3067</CRS>",
    "      <CRS>EPSG:4326</CRS>",
    "      <EX_GeographicBoundingBox>",
    "        <westBoundLongitude>19.08</westBoundLongitude>",
    "        <eastBoundLongitude>31.59</eastBoundLongitude>",
    "        <southBoundLatitude>59.45</southBoundLatitude>",
    "        <northBoundLatitude>70.09</northBoundLatitude>",
    "      </EX_GeographicBoundingBox>",
    "      <Style>",
    "        <Name>default</Name>",
    "        <Title>Default style</Title>",
    "      </Style>",
    "      <Layer queryable=\"1\">",
    "        <Name>roads</Name>",
    "        <Title>Roads &amp; streets</Title>",
    "        <CRS>EPSG:3857</CRS>",
    "        <Style>",
    "          <Name>thick</Name>",
    "          <Title>Thick lines</Title>",
    "          <LegendURL width=\"20\" height=\"20\">",
    "            <Format>image/png</Format>",
    "            <OnlineResource xlink:type=\"simple\" " ++
      "xlink:href=\"http://maps.example.com/legend/roads.png\"/>",
    "          </LegendURL>",
    "        </Style>",
    "        <MinScaleDenominator>1000</MinScaleDenominator>",
    "        <MaxScaleDenominator>500000</MaxScaleDenominator>",
    "      </Layer>",
    "      <Layer queryable=\"0\">",
    "        <Name>lakes</Name>",
    "        <Title>Lakes</Title>",
    "        <EX_GeographicBoundingBox>",
    "          <westBoundLongitude>20</westBoundLongitude>",
    "          <eastBoundLongitude>30</eastBoundLongitude>",
    "          <southBoundLatitude>60</southBoundLatitude>",
    "          <northBoundLatitude>65</northBoundLatitude>",
    "        </EX_GeographicBoundingBox>",
    "      </Layer>",
    "      <Layer queryable=\"1\">",
    "        <Title>Buildings group</Title>",
    "        <MaxScaleDenominator>20000</MaxScaleDenominator>",
    "        <Layer>",
    "          <Name>buildings</Name>",
    "          <Title>Buildings</Title>",
    "          <Style>",
    "            <Name>outline</Name>",
    "          </Style>",
    "        </Layer>",
    "      </Layer>",
    "    </Layer>",
    "  </Capability>",
    "</WMS_Capabilities>"]

/-- An older map service. -/
def wms111 : String :=
  "\n".intercalate [
    "<!DOCTYPE WMT_MS_Capabilities SYSTEM " ++
      "\"http://schemas.opengis.net/wms/1.1.1/WMS_MS_Capabilities.dtd\">",
    "<WMT_MS_Capabilities version=\"1.1.1\">",
    "  <Service>",
    "    <Name>OGC:WMS</Name>",
    "    <Title>Cadastral index</Title>",
    "  </Service>",
    "  <Capability>",
    "    <Request>",
    "      <GetMap>",
    "        <Format>image/png</Format>",
    "      </GetMap>",
    "      <GetFeatureInfo>",
    "        <Format>text/plain</Format>",
    "      </GetFeatureInfo>",
    "    </Request>",
    "    <Layer>",
    "      <Title>Cadastral index</Title>",
    "      <SRS>EPSG:4326 EPSG:3067</SRS>",
    "      <LatLonBoundingBox minx=\"19.5\" miny=\"59.7\" maxx=\"31.5\" maxy=\"70.1\"/>",
    "      <Layer queryable=\"1\">",
    "        <Name>parcels</Name>",
    "        <Title>Parcels</Title>",
    "        <SRS>EPSG:3857</SRS>",
    "        <ScaleHint min=\"0.5\" max=\"14\"/>",
    "      </Layer>",
    "    </Layer>",
    "  </Capability>",
    "</WMT_MS_Capabilities>"]

/-- A tile service. -/
def wmts100 : String :=
  "\n".intercalate [
    "<Capabilities xmlns=\"http://www.opengis.net/wmts/1.0\" " ++
      "xmlns:ows=\"http://www.opengis.net/ows/1.1\" " ++
      "xmlns:xlink=\"http://www.w3.org/1999/xlink\" version=\"1.0.0\">",
    "  <ows:ServiceIdentification>",
    "    <ows:Title>Background maps</ows:Title>",
    "    <ows:ServiceType>OGC WMTS</ows:ServiceType>",
    "    <ows:ServiceTypeVersion>1.0.0</ows:ServiceTypeVersion>",
    "  </ows:ServiceIdentification>",
    "  <Contents>",
    "    <Layer>",
    "      <ows:Title>Background map</ows:Title>",
    "      <ows:WGS84BoundingBox>",
    "        <ows:LowerCorner>18.5 59.0</ows:LowerCorner>",
    "        <ows:UpperCorner>32.5 70.5</ows:UpperCorner>",
    "      </ows:WGS84BoundingBox>",
    "      <ows:Identifier>taustakartta</ows:Identifier>",
    "      <Style isDefault=\"true\">",
    "        <ows:Identifier>default</ows:Identifier>",
    "        <LegendURL format=\"image/png\" " ++
      "xlink:href=\"http://tiles.example.com/legend/taustakartta.png\"/>",
    "      </Style>",
    "      <Format>image/png</Format>",
    "      <InfoFormat>application/json</InfoFormat>",
    "      <TileMatrixSetLink>",
    "        <TileMatrixSet>ETRS-TM35FIN</TileMatrixSet>",
    "      </TileMatrixSetLink>",
    "      <TileMatrixSetLink>",
    "        <TileMatrixSet>WGS84_Pseudo-Mercator</TileMatrixSet>",
    "      </TileMatrixSetLink>",
    "      <ResourceURL format=\"image/png\" resourceType=\"tile\" " ++
      "template=\"http://tiles.example.com/taustakartta/" ++
      "\x7bTileMatrixSet\x7d/\x7bTileMatrix\x7d/\x7bTileRow\x7d/\x7bTileCol\x7d.png\"/>",
    "    </Layer>",
    "    <Layer>",
    "      <ows:Title>Orthophoto</ows:Title>",
    "      <ows:Identifier>ortokuva</ows:Identifier>",
    "      <Style isDefault=\"true\">",
    "        <ows:Identifier>default</ows:Identifier>",
    "      </Style>",
    "      <Format>image/jpeg</Format>",
    "      <TileMatrixSetLink>",
    "        <TileMatrixSet>ETRS-TM35FIN</TileMatrixSet>",
    "      </TileMatrixSetLink>",
    "    </Layer>",
    "    <Layer>",
    "      <ows:Title>Broken link</ows:Title>",
    "      <ows:Identifier>broken</ows:Identifier>",
    "      <Format>image/png</Format>",
    "      <TileMatrixSetLink>",
    "        <TileMatrixSet>MISSING</TileMatrixSet>",
    "      </TileMatrixSetLink>",
    "    </Layer>",
    "    <TileMatrixSet>",
    "      <ows:Identifier>ETRS-TM35FIN</ows:Identifier>",
    "      <ows:SupportedCRS>urn:ogc:def:crs:EPSG:6.3:3067</ows:SupportedCRS>",
    "      <TileMatrix>",
    "        <ows:Identifier>0</ows:Identifier>",
    "        <ScaleDenominator>29257142.85714286</ScaleDenominator>",
    "        <TopLeftCorner>-548576.0 8388608.0</TopLeftCorner>",
    "        <TileWidth>256</TileWidth>",
    "        <TileHeight>256</TileHeight>",
    "        <MatrixWidth>1</MatrixWidth>",
    "        <MatrixHeight>1</MatrixHeight>",
    "      </TileMatrix>",
    "      <TileMatrix>",
    "        <ows:Identifier>1</ows:Identifier>",
    "        <ScaleDenominator>14628571.42857143</ScaleDenominator>",
    "        <TopLeftCorner>-548576.0 8388608.0</TopLeftCorner>",
    "        <TileWidth>256</TileWidth>",
    "        <TileHeight>256</TileHeight>",
    "        <MatrixWidth>2</MatrixWidth>",
    "        <MatrixHeight>2</MatrixHeight>",
    "      </TileMatrix>",
    "    </TileMatrixSet>",
    "    <TileMatrixSet>",
    "      <ows:Identifier>WGS84_Pseudo-Mercator</ows:Identifier>",
    "      <ows:SupportedCRS>urn:ogc:def:crs:EPSG::3857</ows:SupportedCRS>",
    "      <TileMatrix>",
    "        <ows:Identifier>0</ows:Identifier>",
    "        <ScaleDenominator>559082264.0287178</ScaleDenominator>",
    "        <TopLeftCorner>-20037508.3427892 20037508.3427892</TopLeftCorner>",
    "        <TileWidth>256</TileWidth>",
    "        <TileHeight>256</TileHeight>",
    "        <MatrixWidth>1</MatrixWidth>",
    "        <MatrixHeight>1</MatrixHeight>",
    "      </TileMatrix>",
    "    </TileMatrixSet>",
    "  </Contents>",
    "</Capabilities>"]

/-- A newer feature service. -/
def wfs200 : String :=
  "\n".intercalate [
    "<wfs:WFS_Capabilities version=\"2.0.0\" xmlns:wfs=\"http://www.opengis.net/wfs/2.0\" " ++
      "xmlns:ows=\"http://www.opengis.net/ows/1.1\">",
    "  <ows:ServiceIdentification>",
    "    <ows:Title>Features</ows:Title>",
    "  </ows:ServiceIdentification>",
    "  <wfs:FeatureTypeList>",
    "    <wfs:FeatureType>",
    "      <wfs:Name>ns:municipalities</wfs:Name>",
    "    </wfs:FeatureType>",
    "  </wfs:FeatureTypeList>",
    "</wfs:WFS_Capabilities>"]

/-- An older feature service. -/
def wfs110 : String :=
  "\n".intercalate [
    "<WFS_Capabilities version=\"1.1.0\" xmlns=\"http://www.opengis.net/wfs\">",
    "  <FeatureTypeList>",
    "    <FeatureType>",
    "      <Name>municipalities</Name>",
    "    </FeatureType>",
    "  </FeatureTypeList>",
    "</WFS_Capabilities>"]

/-- What a broken service answers with the status of success. -/
def exceptionReport : String :=
  "\n".intercalate [
    "<ServiceExceptionReport version=\"1.3.0\" xmlns=\"http://www.opengis.net/ogc\">",
    "  <ServiceException code=\"InvalidParameterValue\">Unknown service</ServiceException>",
    "</ServiceExceptionReport>"]

/-- The document with an XML declaration in front, which names an encoding if one is given. -/
def withDeclaration (xml : String) (encoding : Option String) : String :=
  match encoding with
  | some label => "<?xml version=\"1.0\" encoding=\"" ++ label ++ "\"?>\n" ++ xml
  | none => "<?xml version=\"1.0\"?>\n" ++ xml

end MapServices.Samples
